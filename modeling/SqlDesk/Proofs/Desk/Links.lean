import SqlDesk.Proofs.Assoc
import SqlDesk.Proofs.Desk.Connection
import SqlDesk.Proofs.Desk.Run

/-!
# What becomes of links

A link that the driver has given is in use for a role until it is closed or until another link takes
its place. A link whose place is taken is not closed, neither then nor later. So all links have been
closed once all connections are, apart from those that were displaced.
-/

namespace SqlDesk

/-- The link that is closed by a request of a desk to its driver. -/
def Call.closed : Call → Option Link
  | .close link => some link
  | _ => none

/-- The link that is closed by a request of a driver. -/
def DriverRequest.closed : DriverRequest → Option Link
  | .close link => link
  | _ => none

theorem Call.closed_request (c : Call) : c.request.closed = c.closed := by
  cases c <;> rfl

namespace Desk

open Act

variable {σ : Type} (desk : Desk σ)

/-- The links in use, role by role. -/
def held (s : DeskState σ) : List Link := (Assoc.values s.memory.links).flatMap Option.toList

/-- The link that the driver gives for a role, if it is asked for one. -/
def given (role : Role) (server : Option ServerSettings) (s : DeskState σ) : Option Link :=
  if desk.Unconfigured role server then none else (desk.answerTo role server s).toOption.join

/-- The link that the driver gives on a request. -/
def granted (s : DeskState σ) : Request → Option Link
  | .connect role server => desk.given role server s
  | _ => none

/-- The link whose place is taken by the one that the driver gives. -/
def displaced (s : DeskState σ) : Request → Option Link
  | .connect role server => (desk.given role server s).bind fun _ => s.memory.linkOf role
  | _ => none

/-- What a run of requests comes across, in order. -/
def along {α : Type} (f : DeskState σ → Request → Option α) :
    List Request → DeskState σ → List α
  | [], _ => []
  | r :: rs, s => (f s r).toList ++ along f rs (desk.perform r s).2

/-- The links that the driver is asked to close in a run. -/
def closings (rs : List Request) (s : DeskState σ) : List Link :=
  (desk.run (rs.map .ask) s).1.filterMap DriverRequest.closed

/-- Between two states some links were given and some were displaced, and all others are accounted
for: each is in use, or the driver was asked to close it. -/
def Balances (given lost : List Link) (s t : DeskState σ) : Prop :=
  s.memory.links.keys.Nodup → t.memory.links.keys.Nodup ∧
    ∃ calls, t.world.calls = s.world.calls ++ calls ∧
      ∀ link, (held s).count link + given.count link =
        (held t).count link + (calls.filterMap Call.closed).count link + lost.count link

variable {s t u : DeskState σ}

theorem Balances.refl (s : DeskState σ) : Balances [] [] s s :=
  fun h => ⟨h, [], (List.append_nil _).symm, fun _ => rfl⟩

theorem Balances.trans {given given' lost lost' : List Link} (h : Balances given lost s t)
    (h' : Balances given' lost' t u) : Balances (given ++ given') (lost ++ lost') s u := by
  intro hnodup
  obtain ⟨hnodup, calls, hcalls, hlinks⟩ := h hnodup
  obtain ⟨hnodup, calls', hcalls', hlinks'⟩ := h' hnodup
  refine ⟨hnodup, calls ++ calls', by rw [hcalls', hcalls, List.append_assoc], fun link => ?_⟩
  have hfirst := hlinks link
  have hsecond := hlinks' link
  rw [List.filterMap_append, List.count_append, List.count_append, List.count_append]
  omega

theorem count_held (s : DeskState σ) (link : Link) :
    (held s).count link = s.memory.links.total fun l => l.toList.count link := by
  unfold held Assoc.total
  rw [List.count_flatMap]
  rfl

/-- The number of times that the link of a role is a given one. -/
theorem count_linkOf (role : Role) (s : DeskState σ) (link : Link) :
    ((s.memory.links.get? role).map fun l => l.toList.count link).getD 0 =
      (s.memory.linkOf role).toList.count link := by
  unfold Memory.linkOf
  rcases s.memory.links.get? role with _ | l <;> rfl

/-- A link that is used for a role displaces the one that was in use. -/
theorem balances_of_linked (role : Role) (link : Link) (s : DeskState σ) :
    Balances [link] (s.memory.linkOf role).toList s (linked role link s) := by
  intro hnodup
  refine ⟨Assoc.nodup_keys_put hnodup role _, [], (List.append_nil _).symm, fun l => ?_⟩
  have hput := Assoc.total_put (fun o : Option Link => o.toList.count l) s.memory.links role
    (some link)
  rw [count_linkOf] at hput
  rw [count_held, count_held]
  exact hput.symm

/-- A link is given up when it is closed. -/
theorem balances_of_close (role : Role) (s : DeskState σ) :
    Balances [] [] s (desk.close role s).2 := by
  intro hnodup
  have herase (l : Link) := Assoc.total_erase (fun o : Option Link => o.toList.count l) hnodup role
  simp only [count_linkOf] at herase
  rcases hlink : s.memory.linkOf role with _ | link <;> rw [hlink] at herase
  · rw [desk.close_of_linkOf_eq_none hlink]
    refine ⟨Assoc.nodup_keys_erase hnodup role, [], (List.append_nil _).symm, fun l => ?_⟩
    rw [count_held, count_held]
    exact (herase l).symm
  · obtain ⟨events, hrun⟩ := desk.close_of_linkOf hlink
    rw [hrun]
    refine ⟨Assoc.nodup_keys_erase hnodup role, [.close link], rfl, fun l => ?_⟩
    rw [count_held, count_held]
    exact (herase l).symm

theorem balances_of_closeEach (roles : List Role) (s : DeskState σ) :
    Balances [] [] s ((roles.forM fun role => desk.close role) s).2 := by
  induction roles generalizing s with
  | nil => exact .refl s
  | cons role roles ih =>
    have hclose := desk.balances_of_close role s
    show Balances [] [] s ((desk.close role >>= fun _ => roles.forM fun r => desk.close r) s).2
    rw [run_bind]
    rcases hrun : desk.close role s with ⟨e | _, t⟩ <;> rw [hrun] at hclose
    · exact hclose
    · exact hclose.trans (ih t)

/-! ## Requests -/

/-- The links in use stay as they are, and none is closed. -/
def KeepsLinks (s t : DeskState σ) : Prop :=
  t.memory.links = s.memory.links ∧ Sent (fun c => c.closed = none) s t

theorem KeepsLinks.balances (h : KeepsLinks s t) : Balances [] [] s t := by
  obtain ⟨hlinks, calls, hcalls, hopen⟩ := h
  intro hnodup
  refine ⟨hlinks ▸ hnodup, calls, hcalls, fun link => ?_⟩
  have hclosed : calls.filterMap Call.closed = [] := List.filterMap_eq_nil_iff.mpr hopen
  rw [hclosed, held, held, hlinks]
  rfl

variable {desk} in
theorem keepsLinks_steady {l : Licence} (hlinks : ¬ l.changes .links)
    (hmakes : ∀ link, ¬ l.makes (.close link)) : desk.Steady l KeepsLinks where
  refl _ := ⟨rfl, .of_calls_eq rfl⟩
  trans h h' := ⟨h'.1.trans h.1, (sent_loose (d := desk.driver) _).trans h.2 h'.2⟩
  post _ _ := ⟨rfl, .of_calls_eq rfl⟩
  statement unbuffered s _ _ := by
    rw [measured_run]
    exact ⟨rfl, [_], rfl, by simp [Call.closed]⟩
  request {c} s _ hc := by
    refine ⟨rfl, [c], rfl, fun d hd => ?_⟩
    obtain rfl := List.mem_singleton.mp hd
    cases d with
    | close link => exact absurd hc (hmakes link)
    | _ => rfl
  change s h hpart := by
    cases h with
    | link | unlink => exact absurd hpart hlinks
    | _ => exact ⟨rfl, .of_calls_eq rfl⟩
  storage _ _ _ := ⟨rfl, .of_calls_eq rfl⟩

/-- The licence to do whatever neither changes which links are in use nor closes one. -/
def Licence.linkless : Licence where
  asks _ _ := True
  makes c := c.closed = Option.none
  changes part := part ≠ .links

variable {desk} in
theorem keepsLinks_of_linkless : desk.Steady .linkless KeepsLinks :=
  keepsLinks_steady (fun h => h rfl) fun _ => nofun

theorem balances_of_connect (role : Role) (server : Option ServerSettings) (s : DeskState σ) :
    let link := desk.given role server s
    Balances link.toList (link.bind fun _ => s.memory.linkOf role).toList s
      (desk.connect role server s).2 := by
  intro link
  have hasked : KeepsLinks s (desk.attempted role server s) :=
    ⟨rfl, [_], rfl, by simp [Call.closed]⟩
  by_cases hconfigured : desk.Unconfigured role server
  · have hnone : link = none := if_pos hconfigured
    obtain ⟨e, hrun⟩ := desk.connect_of_unconfigured (s := s) hconfigured
    rw [hnone, hrun]
    exact .refl s
  · have hgiven : link = (desk.answerTo role server s).toOption.join := if_neg hconfigured
    rcases hanswer : desk.answerTo role server s with e | _ | l <;> rw [hanswer] at hgiven
    · obtain ⟨r, events, hrun⟩ := desk.connect_of_unreachable hconfigured (by rw [hanswer]; nofun)
      rw [hgiven, hrun]
      exact hasked.balances
    · obtain ⟨r, events, hrun⟩ := desk.connect_of_unreachable hconfigured (by rw [hanswer]; nofun)
      rw [hgiven, hrun]
      exact hasked.balances
    · rw [hgiven, desk.connect_of_reachable hconfigured hanswer]
      have hlinked := balances_of_linked role l (desk.attempted role server s)
      have hsetup := (desk.setUp_routine (l := .linkless) (fun _ _ => trivial) nofun nofun nofun
        role (server.getD desk.settings.server) l).moves keepsLinks_of_linkless
        ((linked role l (desk.attempted role server s)).reporting [desk.greeting role server])
      have hconnect := (hasked.balances.trans hlinked).trans hsetup.balances
      rwa [List.append_nil, List.append_nil] at hconnect

/-- Whether a request may change which links are in use. -/
def movesLinks : Request → Bool
  | .connect .. | .close _ | .closeAll | .setLink .. => true
  | _ => false

theorem perform_keepsLinks {r : Request} (h : movesLinks r = false) (s : DeskState σ) :
    KeepsLinks s (desk.perform r s).2 := by
  refine perform_within (keepsLinks_steady ?_ ?_) s
  · show .links ∉ parts r
    cases r with
    | connect | close | closeAll | setLink => cases h
    | _ => simp [parts]
  · intro link
    show ¬ makes r (.close link)
    cases r with
    | connect | close | closeAll | setLink => cases h
    | _ => exact id

theorem perform_linkOf {r : Request} (h : movesLinks r = false) (role : Role) (s : DeskState σ) :
    (desk.perform r s).2.memory.linkOf role = s.memory.linkOf role := by
  unfold Memory.linkOf
  rw [(desk.perform_keepsLinks h s).1]

/-- A request accounts for all links, if it does not put one to use that the driver has not
given. -/
theorem perform_balances {r : Request} (hr : ∀ role link, r ≠ .setLink role link)
    (s : DeskState σ) :
    Balances (desk.granted s r).toList (desk.displaced s r).toList s (desk.perform r s).2 := by
  rcases hmoves : movesLinks r with _ | _
  · have hkept := (desk.perform_keepsLinks hmoves s).balances
    cases r with
    | connect | close | closeAll | setLink => cases hmoves
    | _ => exact hkept
  · cases r with
    | connect role server =>
      have hconnect := desk.balances_of_connect role server s
      rwa [← snd_map Reply.link] at hconnect
    | close role =>
      have hclose := desk.balances_of_close role s
      rwa [← snd_bind_pure _ fun _ => Reply.nothing] at hclose
    | closeAll =>
      have hclose := desk.balances_of_closeEach s.memory.links.keys s
      rwa [← snd_bind_pure _ fun _ => Reply.nothing] at hclose
    | setLink role link => exact absurd rfl (hr role link)
    | _ => cases hmoves

/-! ## Runs -/

theorem closed_of_move {r : Request} {calls : List Call} {s : DeskState σ}
    (h : (desk.perform r s).2.world.calls = s.world.calls ++ calls) :
    (desk.move s (.ask r)).1.filterMap DriverRequest.closed = calls.filterMap Call.closed := by
  unfold move
  dsimp only
  rw [h, List.drop_left, List.filterMap_map]
  exact List.filterMap_congr fun c _ => c.closed_request

/-- A run accounts for all links. -/
theorem run_balances {rs : List Request} (hrs : ∀ r ∈ rs, ∀ role link, r ≠ .setLink role link)
    {s : DeskState σ} (hnodup : s.memory.links.keys.Nodup) (link : Link) :
    let t := (desk.run (rs.map .ask) s).2
    (held s).count link + (along desk desk.granted rs s).count link =
      (held t).count link + (desk.closings rs s).count link +
        (along desk desk.displaced rs s).count link := by
  induction rs generalizing s with
  | nil => rfl
  | cons r rs ih =>
    intro t
    -- the first request balances, and it leaves one link per role for the rest of the run
    obtain ⟨hnodup', calls, hcalls, hlinks⟩ :=
      desk.perform_balances (hrs r List.mem_cons_self) s hnodup
    have hrest := ih (fun r hr => hrs r (List.mem_cons_of_mem _ hr)) hnodup'
    have hfirst := hlinks link
    have hclosings : desk.closings (r :: rs) s =
        calls.filterMap Call.closed ++ desk.closings rs (desk.perform r s).2 := by
      unfold closings
      rw [← desk.closed_of_move hcalls, ← List.filterMap_append]
      rfl
    unfold along
    rw [hclosings, List.count_append, List.count_append, List.count_append]
    have ht : t = (desk.run (rs.map .ask) (desk.perform r s).2).2 := rfl
    rw [ht]
    dsimp only at hrest
    omega

/-! ## Closing all connections -/

section Closing

variable (hclose : ∀ link journal, (desk.driver.close link journal).1 = .ok ())

include hclose

theorem close_links (role : Role) (s : DeskState σ) :
    ∃ t, desk.close role s = (.ok (), t) ∧ t.memory.links = s.memory.links.erase role := by
  rcases hlink : s.memory.linkOf role with _ | link
  · exact ⟨_, desk.close_of_linkOf_eq_none hlink, rfl⟩
  · obtain ⟨events, hrun⟩ := desk.close_of_linkOf hlink
    rw [hclose] at hrun
    exact ⟨_, hrun, rfl⟩

theorem closeEach_links (roles : List Role) (s : DeskState σ) :
    ((roles.forM fun role => desk.close role) s).2.memory.links =
      roles.foldl Assoc.erase s.memory.links := by
  induction roles generalizing s with
  | nil => rfl
  | cons role roles ih =>
    obtain ⟨t, hrun, hlinks⟩ := desk.close_links hclose role s
    show ((desk.close role >>= fun _ => roles.forM fun r => desk.close r) s).2.memory.links = _
    rw [run_bind, hrun, List.foldl_cons, ← hlinks]
    exact ih t

theorem closeAll_links (s : DeskState σ) : (desk.perform .closeAll s).2.memory.links = [] := by
  have hrun : (desk.perform .closeAll s).2 =
      ((s.memory.links.keys.forM fun role => desk.close role) s).2 := snd_bind_pure _ _ s
  rw [hrun, desk.closeEach_links hclose]
  exact Assoc.foldl_erase_keys _

end Closing

/-- After a run that ends with the closing of all connections, no role is connected, and each link
that the driver gave was closed once unless another one took its place: exactly if that never
happened, all links were closed. -/
theorem links_settled (desk : Desk σ)
    (hclose : ∀ link journal, (desk.driver.close link journal).1 = .ok ()) (rs : List Request)
    (hrs : ∀ r ∈ rs, ∀ role link, r ≠ .setLink role link) (w : World σ) :
    let start : DeskState σ := ⟨desk.newMemory, w⟩
    let run := rs ++ [.closeAll]
    let given := along desk desk.granted run start
    let lost := along desk desk.displaced run start
    let closed := desk.closings run start
    (∀ role, (desk.perform (.isConnected role) (desk.run (run.map .ask) start).2).1 =
      .ok (.truth false)) ∧
    (∀ link, closed.count link + lost.count link = given.count link) ∧
    ((∀ link, closed.count link = given.count link) ↔ lost = []) := by
  intro start run given lost closed
  have hnone : (desk.run (run.map .ask) start).2.memory.links = [] := by
    have hlast : (desk.run (run.map .ask) start).2 =
        (desk.perform .closeAll (desk.run (rs.map .ask) start).2).2 := by
      rw [List.map_append, run_append]
      rfl
    rw [hlast, desk.closeAll_links hclose]
  have hrun : ∀ r ∈ run, ∀ role link, r ≠ .setLink role link := by
    intro r hr
    rcases List.mem_append.mp hr with hr | hr
    · exact hrs r hr
    · obtain rfl := List.mem_singleton.mp hr
      nofun
  have hcount (link : Link) : closed.count link + lost.count link = given.count link := by
    -- granted links are held, displaced or closed, and none is held at the end
    have hbalance := desk.run_balances hrun (s := start) List.nodup_nil link
    have hheld : held (desk.run (run.map .ask) start).2 = [] := by
      unfold held
      rw [hnone]
      rfl
    have hstart : held start = [] := rfl
    dsimp only at hbalance
    rw [hheld, hstart] at hbalance
    simpa using hbalance.symm
  refine ⟨fun role => ?_, hcount, fun hall => ?_, fun hlost link => ?_⟩
  · -- a role that is listed counts as connected even without a link, so none may be listed
    show Except.ok (Reply.truth (Assoc.has (desk.run (run.map .ask) start).2.memory.links role)) = _
    rw [hnone]
    rfl
  · refine List.eq_nil_iff_forall_not_mem.mpr fun link hlink => ?_
    have hpos := List.count_pos_iff.mpr hlink
    have hlink := hcount link
    rw [hall] at hlink
    omega
  · have hlink := hcount link
    rw [hlost] at hlink
    exact hlink

/-- The links of roles that are closed before they are connected again, of which one cannot be
connected at first, are all closed. -/
theorem closed_roles_settled :
    let connects : List (Option LinkError) := [none, some ⟨2003, "no route"⟩]
    let rs : List Request :=
      [.connect .user none, .connect .auxiliary none, .close .user, .close .user,
        .connect .auxiliary none, .connect .user none]
    let start : DeskState Script :=
      ⟨scripted.newMemory, { journal := { state := { connects } } }⟩
    let run := rs ++ [.closeAll]
    let given := along scripted scripted.granted run start
    let lost := along scripted scripted.displaced run start
    let closed := scripted.closings run start
    given = [⟨"c1"⟩, ⟨"c2"⟩, ⟨"c3"⟩] ∧ lost = [] ∧
      ∀ link, closed.count link = given.count link := by
  intro connects rs start run given lost closed
  have hlost : lost = [] := by decide +kernel
  have hrs : ∀ r ∈ rs, ∀ role link, r ≠ .setLink role link := by simp [rs]
  have hsettled := links_settled scripted (fun _ _ => rfl) rs hrs start.world
  exact ⟨by decide +kernel, hlost, hsettled.2.2.mpr hlost⟩

/-- The first of two links of one role is not closed. -/
theorem reconnected_role_leaks :
    let start : DeskState Script := ⟨scripted.newMemory, { journal := { state := {} } }⟩
    let run : List Request := [.connect .auxiliary none, .connect .auxiliary none, .closeAll]
    let given := along scripted scripted.granted run start
    let closed := scripted.closings run start
    given = [⟨"c1"⟩, ⟨"c2"⟩] ∧ closed = [⟨"c2"⟩] ∧
      ¬ ∀ link, closed.count link = given.count link := by
  intro start run given closed
  have hgiven : given = [⟨"c1"⟩, ⟨"c2"⟩] := by decide +kernel
  have hclosed : closed = [⟨"c2"⟩] := by decide +kernel
  refine ⟨hgiven, hclosed, fun h => ?_⟩
  have hfirst := h ⟨"c1"⟩
  rw [hgiven, hclosed] at hfirst
  exact absurd hfirst (by decide)

end Desk

end SqlDesk
