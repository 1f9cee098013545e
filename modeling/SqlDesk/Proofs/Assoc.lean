import Mathlib.Data.List.Forall2
import SqlDesk.Assoc

/-!
# Mappings that are changed

What is read from a mapping after a change, which keys it has, and sums over its values.
-/

namespace SqlDesk.Assoc

variable {κ α β : Type}

/-- Reading after removing, when key equality is genuine. -/
theorem get?_erase [BEq κ] [LawfulBEq κ] (m : Assoc κ α) (k l : κ) :
    (m.erase k).get? l = if k == l then none else m.get? l := by
  unfold erase
  induction m with
  | nil => simp
  | cons e m ih =>
    by_cases he : e.1 = k
    · subst he
      rw [List.filter_cons_of_neg (by simp), ih, get?_cons]
      by_cases hl : e.1 = l <;> simp [hl]
    · rw [List.filter_cons_of_pos (by simpa using he), get?_cons, get?_cons, ih]
      by_cases hl : k = l
      · subst hl
        simp [he]
      · simp [hl]

theorem mem_foldl_erase [BEq κ] [LawfulBEq κ] {ks : List κ} {m : Assoc κ α} {e : κ × α} :
    e ∈ ks.foldl erase m ↔ e ∈ m ∧ e.1 ∉ ks := by
  induction ks generalizing m with
  | nil => simp
  | cons k ks ih =>
    rw [List.foldl_cons, ih, erase, List.mem_filter, List.mem_cons, not_or, and_assoc]
    simp

/-- Nothing is left once all keys were removed. -/
theorem foldl_erase_keys [BEq κ] [LawfulBEq κ] (m : Assoc κ α) : m.keys.foldl erase m = [] :=
  List.eq_nil_iff_forall_not_mem.mpr fun _ he =>
    (mem_foldl_erase.mp he).2 (List.mem_map_of_mem (mem_foldl_erase.mp he).1)

/-! ## Keys that come once -/

section Keys

variable [BEq κ] [LawfulBEq κ]

theorem get?_of_notMem {m : Assoc κ α} {k : κ} (h : k ∉ m.keys) : m.get? k = none := by
  induction m with
  | nil => rfl
  | cons e m ih =>
    obtain ⟨hne, hrest⟩ := not_or.mp (mt List.mem_cons.mpr h)
    rw [get?_cons, if_neg (by simpa using Ne.symm hne), ih hrest]

theorem mem_keys_put {m : Assoc κ α} {k l : κ} {v : α} :
    l ∈ (m.put k v).keys ↔ l = k ∨ l ∈ m.keys := by
  unfold keys
  induction m with
  | nil => simp
  | cons e m ih =>
    rw [put_cons]
    by_cases h : (e.1 == k) = true
    · rw [if_pos h, ← LawfulBEq.eq_of_beq h]
      simp
    · rw [if_neg h, List.map_cons, List.mem_cons, ih, List.map_cons, List.mem_cons]
      exact or_left_comm

/-- Writing adds no key a second time. -/
theorem nodup_keys_put {m : Assoc κ α} (h : m.keys.Nodup) (k : κ) (v : α) :
    (m.put k v).keys.Nodup := by
  induction m with
  | nil => exact List.nodup_cons.mpr ⟨List.not_mem_nil, List.nodup_nil⟩
  | cons e m ih =>
    obtain ⟨hnew, hrest⟩ := List.nodup_cons.mp h
    rw [put_cons]
    by_cases he : (e.1 == k) = true
    · rw [if_pos he]
      exact h
    · rw [if_neg he]
      refine List.nodup_cons.mpr ⟨fun hmem => ?_, ih hrest⟩
      rcases mem_keys_put.mp hmem with hk | hold
      · exact he (beq_iff_eq.mpr hk)
      · exact hnew hold

theorem nodup_keys_merge {m : Assoc κ α} (h : m.keys.Nodup) (n : Assoc κ α) :
    (m.merge n).keys.Nodup := by
  induction n generalizing m with
  | nil => exact h
  | cons e n ih => exact ih (nodup_keys_put h e.1 e.2)

theorem nodup_keys_ofList (es : List (κ × α)) : (ofList es).keys.Nodup :=
  nodup_keys_merge (m := []) List.nodup_nil es

/-- Writing under a new key adds its entry behind the others. -/
theorem put_of_notMem {m : Assoc κ α} {k : κ} (h : k ∉ m.keys) (v : α) :
    m.put k v = m ++ [(k, v)] := by
  induction m with
  | nil => rfl
  | cons e m ih =>
    obtain ⟨hne, hrest⟩ := not_or.mp (mt List.mem_cons.mpr h)
    rw [put_cons, if_neg (by simpa using Ne.symm hne), ih hrest, List.cons_append]

theorem merge_of_nodup {m n : Assoc κ α} (h : (m ++ n).keys.Nodup) : m.merge n = m ++ n := by
  induction n generalizing m with
  | nil => exact (List.append_nil m).symm
  | cons e n ih =>
    have hcut : m ++ e :: n = (m ++ [e]) ++ n := by simp
    rw [hcut] at h
    have hnew : e.1 ∉ m.keys := by
      unfold keys at h
      rw [List.map_append, List.map_append] at h
      have hfirst := (List.nodup_append.mp h).1
      exact fun hmem => (List.nodup_append.mp hfirst).2.2 _ hmem _ (by simp) rfl
    have hmerge : m.merge (e :: n) = (m.put e.1 e.2).merge n := rfl
    rw [hmerge, put_of_notMem hnew, hcut]
    exact ih h

/-- Entries whose keys come once are a mapping as they are. -/
theorem ofList_of_nodup {es : List (κ × α)} (h : (keys es).Nodup) : ofList es = es :=
  merge_of_nodup (m := []) h

theorem mem_of_mem_put {m : Assoc κ α} {k : κ} {v : α} {e : κ × α} (h : e ∈ m.put k v) :
    e = (k, v) ∨ e ∈ m := by
  induction m with
  | nil => exact .inl (List.mem_singleton.mp h)
  | cons d m ih =>
    rw [put_cons] at h
    by_cases hd : (d.1 == k) = true
    · rw [if_pos hd] at h
      rcases List.mem_cons.mp h with rfl | h
      · exact .inl (by rw [LawfulBEq.eq_of_beq hd])
      · exact .inr (List.mem_cons_of_mem _ h)
    · rw [if_neg hd] at h
      rcases List.mem_cons.mp h with rfl | h
      · exact .inr List.mem_cons_self
      · exact (ih h).imp_right (List.mem_cons_of_mem _)

theorem mem_of_mem_merge {m n : Assoc κ α} {e : κ × α} (h : e ∈ m.merge n) : e ∈ m ∨ e ∈ n := by
  induction n generalizing m with
  | nil => exact .inl h
  | cons d n ih =>
    rcases ih (m := m.put d.1 d.2) h with h | h
    · rcases mem_of_mem_put h with rfl | h
      · exact .inr List.mem_cons_self
      · exact .inl h
    · exact .inr (List.mem_cons_of_mem _ h)

/-- A mapping has no entries but those that it is made of. -/
theorem mem_of_mem_ofList {es : List (κ × α)} {e : κ × α} (h : e ∈ ofList es) : e ∈ es :=
  (mem_of_mem_merge (m := []) h).resolve_left List.not_mem_nil

omit [LawfulBEq κ] in
theorem nodup_keys_erase {m : Assoc κ α} (h : m.keys.Nodup) (k : κ) : (m.erase k).keys.Nodup :=
  h.sublist (List.filter_sublist.map Prod.fst)

/-- Reading after writing a mapping whose keys come once. -/
theorem get?_merge (m : Assoc κ α) {n : Assoc κ α} (hn : n.keys.Nodup) (k : κ) :
    (m.merge n).get? k = (n.get? k).or (m.get? k) := by
  induction n generalizing m with
  | nil => rfl
  | cons e n ih =>
    obtain ⟨hnew, hrest⟩ := List.nodup_cons.mp hn
    have hmerge : m.merge (e :: n) = (m.put e.1 e.2).merge n := rfl
    rw [hmerge, ih _ hrest, get?_put, get?_cons]
    by_cases hk : (e.1 == k) = true
    · have hnone : get? n k = none := get?_of_notMem (eq_of_beq hk ▸ hnew)
      rw [if_pos hk, if_pos hk, hnone, Option.none_or, Option.some_or]
    · rw [if_neg hk, if_neg hk]

end Keys

/-! ## Values under a function -/

/-- The mapping with a function applied to every value. -/
def mapValues (f : α → β) (m : Assoc κ α) : Assoc κ β := m.map fun e => (e.1, f e.2)

/-- Mappings with the same values under `f` have the same keys, in the same order. -/
theorem forall₂_of_mapValues_eq {f : α → β} {m n : Assoc κ α}
    (h : m.mapValues f = n.mapValues f) :
    List.Forall₂ (fun d e => d.1 = e.1 ∧ f d.2 = f e.2) m n := by
  unfold mapValues at h
  induction m generalizing n with
  | nil =>
    obtain rfl : n = [] := by simpa using h.symm
    exact .nil
  | cons d m ih =>
    rcases n with _ | ⟨e, n⟩
    · simp at h
    · obtain ⟨hde, hrest⟩ := List.cons.inj h
      exact .cons (Prod.mk.inj hde) (ih hrest)

variable [BEq κ] (f : α → β)

theorem mapValues_put (m : Assoc κ α) (k : κ) (v : α) :
    (m.put k v).mapValues f = (m.mapValues f).put k (f v) := by
  unfold mapValues
  induction m with
  | nil => rfl
  | cons e m ih =>
    rw [List.map_cons, put_cons, put_cons]
    by_cases h : (e.1 == k) = true
    · rw [if_pos h, if_pos h, List.map_cons]
    · rw [if_neg h, if_neg h, List.map_cons, ih]

theorem mapValues_merge (m n : Assoc κ α) :
    (m.merge n).mapValues f = (m.mapValues f).merge (n.mapValues f) := by
  unfold merge
  induction n generalizing m with
  | nil => rfl
  | cons e n ih =>
    rw [List.foldl_cons, ih, mapValues_put]
    rfl

theorem mapValues_ofList (es : List (κ × α)) :
    (ofList es).mapValues f = ofList (mapValues f es) := mapValues_merge f [] es

theorem get?_mapValues (m : Assoc κ α) (k : κ) : (m.mapValues f).get? k = (m.get? k).map f := by
  unfold mapValues
  induction m with
  | nil => rfl
  | cons e m ih =>
    rw [List.map_cons, get?_cons, get?_cons, ih]
    split <;> rfl

/-! ## Sums over the values -/

/-- The sum of a number for every value. -/
def total (g : α → Nat) (m : Assoc κ α) : Nat := (m.values.map g).sum

omit [BEq κ] in
theorem total_cons (g : α → Nat) (e : κ × α) (m : Assoc κ α) :
    total g (e :: m) = g e.2 + total g m := by
  simp [total, values]

/-- Writing adds the number of the new value and takes that of the old one away. -/
theorem total_put (g : α → Nat) (m : Assoc κ α) (k : κ) (v : α) :
    (m.put k v).total g + ((m.get? k).map g).getD 0 = m.total g + g v := by
  induction m with
  | nil => simp [total, values]
  | cons e m ih =>
    rw [put_cons, get?_cons]
    by_cases h : (e.1 == k) = true
    · rw [if_pos h, if_pos h, total_cons, total_cons]
      simp only [Option.map_some, Option.getD_some]
      omega
    · rw [if_neg h, if_neg h, total_cons, total_cons]
      omega

/-- Removing takes the number of the value away. -/
theorem total_erase [LawfulBEq κ] (g : α → Nat) {m : Assoc κ α} (hm : m.keys.Nodup) (k : κ) :
    (m.erase k).total g + ((m.get? k).map g).getD 0 = m.total g := by
  induction m with
  | nil => rfl
  | cons e m ih =>
    obtain ⟨hnew, hrest⟩ := List.nodup_cons.mp hm
    have herase := ih hrest
    rw [get?_cons]
    by_cases hk : (e.1 == k) = true
    · have hnone : get? m k = none := get?_of_notMem (eq_of_beq hk ▸ hnew)
      have hdrop : erase (e :: m) k = erase m k := List.filter_cons_of_neg (by simp [hk])
      rw [hnone] at herase
      rw [hdrop, if_pos hk, total_cons, ← herase]
      simp only [Option.map_none, Option.map_some, Option.getD_none, Option.getD_some]
      omega
    · have hkeep : erase (e :: m) k = e :: erase m k := List.filter_cons_of_pos (by simpa using hk)
      rw [hkeep, if_neg hk, total_cons, total_cons]
      omega

/-! ## Mappings gathered from entries -/

/-- The value that entries give a key last, or another one if they give it none. -/
def lastUnder (es : List (κ × α)) (k : κ) (v : α) : α :=
  ((es.filter fun e => k == e.1).map Prod.snd).getLastD v

/-- A mapping is gathered from entries: the first of them has the first place, with the value that
is given to its key last, and behind it those with other keys are gathered. -/
inductive Gathers : List (κ × α) → Assoc κ α → Prop where
  | nil : Gathers [] []
  | cons (k : κ) (v : α) {es : List (κ × α)} {m : Assoc κ α}
      (h : Gathers (es.filter fun e => !(k == e.1)) m) :
      Gathers ((k, v) :: es) ((k, lastUnder es k v) :: m)

/-- Entries that are written into a mapping go to its first entry or to those behind it. -/
theorem merge_cons (k : κ) (v : α) (m es : Assoc κ α) :
    merge ((k, v) :: m) es =
      (k, lastUnder es k v) :: merge m (es.filter fun e => !(k == e.1)) := by
  unfold lastUnder
  induction es generalizing v m with
  | nil => rfl
  | cons e es ih =>
    have hmerge : merge ((k, v) :: m) (e :: es) = merge (put ((k, v) :: m) e.1 e.2) es := rfl
    rw [hmerge, put_cons, List.filter_cons, List.filter_cons]
    by_cases h : (k == e.1) = true
    · rw [if_pos h, ih, if_pos h, h, if_neg (by decide), List.map_cons, List.getLastD_cons]
    · rw [if_neg h, ih, if_neg h, Bool.eq_false_iff.mpr h, if_pos (by decide)]
      rfl

/-- The mapping of a list of entries is gathered from them. -/
theorem gathers_ofList (es : List (κ × α)) : Gathers es (ofList es) := by
  induction hn : es.length using Nat.strongRecOn generalizing es with
  | _ n ih =>
    rcases es with _ | ⟨⟨k, v⟩, es⟩
    · exact .nil
    · have hfirst : ofList ((k, v) :: es) = merge [(k, v)] es := rfl
      have hshorter : (es.filter fun e => !(k == e.1)).length < n := by
        have hle := List.length_filter_le (fun e => !(k == e.1)) es
        rw [List.length_cons] at hn
        omega
      rw [hfirst, merge_cons]
      exact .cons k v (ih _ hshorter _ rfl)

/-! ## Mappings made of items under their keys -/

section Keyed

variable [LawfulBEq κ] {key : β → κ} {g : β → α} {qs : List β} {q : β}
  (hkey : ∀ p ∈ qs, key p = key q → p = q)

include hkey

theorem get?_keyed [DecidableEq β] :
    get? (qs.map fun p => (key p, g p)) (key q) = if q ∈ qs then some (g q) else none := by
  induction qs with
  | nil => rfl
  | cons p qs ih =>
    rw [List.map_cons, get?_cons, ih fun p hp => hkey p (List.mem_cons_of_mem _ hp)]
    by_cases hp : p = q
    · simp [hp]
    · have hne : key p ≠ key q := fun h => hp (hkey p List.mem_cons_self h)
      simp [hne, Ne.symm hp]

/-- Writing under the key of an item changes its value, or adds it behind the others. -/
theorem put_keyed [DecidableEq β] (hqs : qs.Nodup) (v : α) :
    put (qs.map fun p => (key p, g p)) (key q) v =
      if q ∈ qs then qs.map fun p => (key p, if p = q then v else g p)
      else (qs.map fun p => (key p, g p)) ++ [(key q, v)] := by
  induction qs with
  | nil => rfl
  | cons p qs ih =>
    obtain ⟨hnew, hqs⟩ := List.nodup_cons.mp hqs
    rw [List.map_cons, put_cons]
    by_cases hp : p = q
    · subst hp
      -- no later item is `p` again, so the change does not reach them
      have hrest : qs.map (fun r => (key r, if r = p then v else g r)) =
          qs.map fun r => (key r, g r) := by
        refine List.map_congr_left fun r hr => ?_
        rw [if_neg fun h : r = p => hnew (h ▸ hr)]
      simp [hrest]
    · have hne : key p ≠ key q := fun h => hp (hkey p List.mem_cons_self h)
      rw [if_neg (by simpa using hne), ih (fun p hp => hkey p (List.mem_cons_of_mem _ hp)) hqs]
      by_cases hq : q ∈ qs
      · simp [hq, hp]
      · simp [hq, Ne.symm hp]

end Keyed

end SqlDesk.Assoc
