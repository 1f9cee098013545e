import SqlDesk.Proofs.Session.View

/-!
# Requests and the scopes they ask

A request asks the cache of its scope, and its computation may ask caches of other scopes. Whatever
they come to, nothing changes outside of the scopes that are asked; and storages that show the same
under these scopes are answered alike and show the same afterwards.
-/

namespace SqlDesk.Session

/-! ## All that is asked -/

mutual

/-- A request, and all requests of its computation, satisfy `P` together with the scopes that they
ask. -/
def Request.Every (P : String → Request → Prop) (scope : String) : Request → Prop
  | .compute key c => P scope (.compute key c) ∧ c.Every P
  | .has key => P scope (.has key)
  | .get key default => P scope (.get key default)
  | .set key value => P scope (.set key value)
  | .remove key => P scope (.remove key)
  | .clear => P scope .clear
  | .describe => P scope .describe

/-- All requests of a computation satisfy `P` together with the scopes that they ask. -/
def Computation.Every (P : String → Request → Prop) : Computation → Prop
  | .done _ => True
  | .ask scope r next => r.Every P scope ∧ ∀ answer, (next answer).Every P

end

mutual

theorem Request.Every.and {P Q : String → Request → Prop} {scope : String} :
    ∀ {r : Request}, r.Every P scope → r.Every Q scope → r.Every (fun s r => P s r ∧ Q s r) scope
  | .compute _ _, hp, hq => ⟨⟨hp.1, hq.1⟩, hp.2.and hq.2⟩
  | .has _, hp, hq => ⟨hp, hq⟩
  | .get _ _, hp, hq => ⟨hp, hq⟩
  | .set _ _, hp, hq => ⟨hp, hq⟩
  | .remove _, hp, hq => ⟨hp, hq⟩
  | .clear, hp, hq => ⟨hp, hq⟩
  | .describe, hp, hq => ⟨hp, hq⟩

theorem Computation.Every.and {P Q : String → Request → Prop} :
    ∀ {c : Computation}, c.Every P → c.Every Q → c.Every fun s r => P s r ∧ Q s r
  | .done _, _, _ => trivial
  | .ask _ _ _, hp, hq => ⟨hp.1.and hq.1, fun answer => (hp.2 answer).and (hq.2 answer)⟩

end

mutual

theorem Request.every {P : String → Request → Prop} (h : ∀ s r, P s r) {scope : String} :
    ∀ r : Request, r.Every P scope
  | .compute _ c => ⟨h _ _, c.every h⟩
  | .has _ => h _ _
  | .get _ _ => h _ _
  | .set _ _ => h _ _
  | .remove _ => h _ _
  | .clear => h _ _
  | .describe => h _ _

theorem Computation.every {P : String → Request → Prop} (h : ∀ s r, P s r) :
    ∀ c : Computation, c.Every P
  | .done _ => trivial
  | .ask _ r next => ⟨r.every h, fun answer => (next answer).every h⟩

end

/-! ## What is written -/

/-- A computation for a missing key: its outcome is written, if it has one. -/
theorem perform_compute (st : Storage) (scope : String) (key : Value) (c : Computation) :
    perform st scope (.compute key c) =
      match lookup st scope key with
      | .error f => (st, .error (.fault f))
      | .ok (some v) => (st, .ok v)
      | .ok none =>
        match (c.run st).2 with
        | .error e => ((c.run st).1, .error e)
        | .ok v => ((set (c.run st).1 scope key v).1,
            (fun _ => v) <$> Error.ofFault (set (c.run st).1 scope key v).2) := by
  rw [perform]
  rcases lookup st scope key with f | _ | v
  · rfl
  · dsimp only
    rcases c.run st with ⟨st', e | v⟩ <;> rfl
  · rfl

theorem run_ask (st : Storage) (scope : String) (r : Request)
    (next : Except Error Value → Computation) :
    (Computation.ask scope r next).run st =
      (next (perform st scope r).2).run (perform st scope r).1 := by
  rw [Computation.run]

/-- A relation of storages to what they become, which holds of all operations with `P`. -/
structure Kept (P : String → Request → Prop) (R : Storage → Storage → Prop) : Prop where
  refl : ∀ st, R st st
  trans : ∀ {st st' st''}, R st st' → R st' st'' → R st st''
  set : ∀ {st scope key value}, P scope (.set key value) → R st (set st scope key value).1
  remove : ∀ {st scope key}, P scope (.remove key) → R st (remove st scope key).1
  clear : ∀ {st scope}, P scope .clear → R st (clear st scope).1
  /-- What was computed is written. -/
  computed : ∀ {st scope key c value}, P scope (.compute key c) →
    R st (Session.set st scope key value).1

mutual

theorem Kept.perform {P : String → Request → Prop} {R : Storage → Storage → Prop} (hR : Kept P R)
    (st : Storage) (scope : String) : ∀ {r : Request}, r.Every P scope → R st (perform st scope r).1
  | .has _, _ => hR.refl st
  | .get _ _, _ => hR.refl st
  | .set _ _, hr => hR.set hr
  | .remove _, hr => hR.remove hr
  | .clear, hr => hR.clear hr
  | .describe, _ => hR.refl st
  | .compute key c, hr => by
    have hc := hR.run st hr.2
    rw [perform_compute]
    rcases lookup st scope key with f | _ | v
    · exact hR.refl st
    · dsimp only
      rcases (c.run st).2 with e | v
      · exact hc
      · exact hR.trans hc (hR.computed hr.1)
    · exact hR.refl st

theorem Kept.run {P : String → Request → Prop} {R : Storage → Storage → Prop} (hR : Kept P R)
    (st : Storage) : ∀ {c : Computation}, c.Every P → R st (c.run st).1
  | .done _, _ => hR.refl st
  | .ask scope r next, hc => by
    rw [run_ask]
    exact hR.trans (hR.perform st scope hc.1) (hR.run _ (hc.2 _))

end

/-- Nothing changes outside of the scopes that are asked. -/
theorem sameOutside_kept (inside : String → Prop) :
    Kept (fun scope _ => inside scope) (SameOutside inside) where
  refl := .refl
  trans := .trans
  set h := ((set_worksOn _ _ _).outside _).mono fun _ hs => hs ▸ h
  remove h := ((remove_worksOn _ _).outside _).mono fun _ hs => hs ▸ h
  clear h := ((clear_worksOn _).outside _).mono fun _ hs => hs ▸ h
  computed h := ((set_worksOn _ _ _).outside _).mono fun _ hs => hs ▸ h

/-! ## What is seen -/

/-- Two storages show the same under the scopes inside. -/
def SameInside (inside : String → Prop) (st st' : Storage) : Prop :=
  ∀ scope, inside scope → view st scope = view st' scope

section SameInside

variable {inside : String → Prop} {st st' : Storage} (h : SameInside inside st st')

include h

/-- Operations answer alike what shows the same, and leave what shows the same. -/
theorem WorksOn.sameInside {scope : String} {op : Storage → Storage × Except Fault Unit}
    {answer : Except Value (Option Value) → Except Fault Unit} {next : Option Value → Option Value}
    (hop : WorksOn scope op answer next) (hscope : inside scope) :
    (op st).2 = (op st').2 ∧ SameInside inside (op st).1 (op st').1 := by
  refine ⟨?_, fun s hs => ?_⟩
  · rw [hop.answer_eq, hop.answer_eq, h scope hscope]
  · by_cases hsame : s = scope
    · subst hsame
      rw [hop.view_eq, hop.view_eq, h s hs]
    · rw [(hop.outside st).view_eq hsame, (hop.outside st').view_eq hsame, h s hs]

theorem SameInside.entries_eq {scope : String} (hscope : inside scope) :
    entries st scope = entries st' scope := by
  rw [Session.entries_eq, Session.entries_eq, h scope hscope]

theorem SameInside.lookup_eq {scope : String} (hscope : inside scope) (key : Value) :
    lookup st scope key = lookup st' scope key := by
  unfold lookup
  rw [h.entries_eq hscope]

theorem SameInside.has_eq {scope : String} (hscope : inside scope) (key : Value) :
    has st scope key = has st' scope key := by
  unfold has
  rw [h.entries_eq hscope]

theorem SameInside.computes_eq {scope : String} (hscope : inside scope) (r : Request) :
    computes st scope r = computes st' scope r := by
  cases r with
  | compute key c =>
    unfold computes
    dsimp only
    rw [h.lookup_eq hscope]
  | _ => rfl

end SameInside

/-- Two turns with the same answer, after which the same shows under the scopes inside. -/
def SameTurn {α : Type} (inside : String → Prop) (x y : Storage × α) : Prop :=
  x.2 = y.2 ∧ SameInside inside x.1 y.1

theorem SameTurn.map {α β : Type} {inside : String → Prop} {x y : Storage × α}
    (h : SameTurn inside x y) (f : α → β) : SameTurn inside (x.1, f x.2) (y.1, f y.2) :=
  ⟨congrArg f h.1, h.2⟩

mutual

theorem perform_sameTurn {inside : String → Prop} {scope : String} : ∀ {r : Request}
    {st st' : Storage}, r.Every (fun s _ => inside s) scope → SameInside inside st st' →
    SameTurn inside (perform st scope r) (perform st' scope r)
  | .has key, _, _, hr, h => ⟨by rw [perform, perform, h.has_eq hr], h⟩
  | .get key default, _, _, hr, h => by
    refine ⟨?_, h⟩
    rw [perform, perform, Session.get, Session.get, h.lookup_eq hr]
  | .set key value, _, _, hr, h =>
    SameTurn.map ((set_worksOn scope key value).sameInside h hr) fun r =>
      (fun _ => Value.null) <$> Error.ofFault r
  | .remove key, _, _, hr, h =>
    SameTurn.map ((remove_worksOn scope key).sameInside h hr) fun r =>
      (fun _ => Value.null) <$> Error.ofFault r
  | .clear, _, _, hr, h =>
    SameTurn.map ((clear_worksOn scope).sameInside h hr) fun r =>
      (fun _ => Value.null) <$> Error.ofFault r
  | .describe, _, _, _, h => ⟨rfl, h⟩
  | .compute key c, st, st', hr, h => by
    have hc := run_sameTurn hr.2 h
    rw [perform_compute, perform_compute, h.lookup_eq hr.1]
    rcases lookup st' scope key with f | _ | v
    · exact ⟨rfl, h⟩
    · dsimp only
      rw [hc.1]
      rcases (c.run st').2 with e | v
      · exact ⟨rfl, hc.2⟩
      · exact SameTurn.map ((set_worksOn scope key v).sameInside hc.2 hr.1) fun r =>
          (fun _ => v) <$> Error.ofFault r
    · exact ⟨rfl, h⟩

theorem run_sameTurn {inside : String → Prop} : ∀ {c : Computation} {st st' : Storage},
    c.Every (fun s _ => inside s) → SameInside inside st st' →
    SameTurn inside (c.run st) (c.run st')
  | .done _, _, _, _, h => ⟨rfl, h⟩
  | .ask scope r next, st, st', hc, h => by
    have hr := perform_sameTurn hc.1 h
    rw [run_ask, run_ask, hr.1]
    exact run_sameTurn (hc.2 _) hr.2

end

end SqlDesk.Session
