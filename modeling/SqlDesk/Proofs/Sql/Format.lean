import SqlDesk.Proofs.Sql.Placeholder

/-!
# Converted statements as formats

The client puts its parameters into a statement by formatting it: `%s` is a conversion, `%%` stands
for a percent sign, and a percent sign before anything else is a conversion of another kind or none.
A converted statement is a format with one conversion for each question mark, and gives the
statement back, exactly if it had no percent sign behind a backslash in quotes: such a sign is
copied, where all others are doubled.
-/

namespace SqlDesk.Sql

/-- A part of a format. -/
inductive FormatItem where
  | text (c : Char)
  /-- A conversion that takes an argument as it is. -/
  | slot
deriving DecidableEq, Repr

/-- The parts of a format; none if a percent sign starts anything but `%s` and `%%`. -/
def readFormat : List Char → Option (List FormatItem)
  | [] => some []
  | '%' :: '%' :: cs => (readFormat cs).map (.text '%' :: ·)
  | '%' :: 's' :: cs => (readFormat cs).map (.slot :: ·)
  | '%' :: _ => none
  | c :: cs => (readFormat cs).map (.text c :: ·)

/-- The number of conversions. -/
def slots (items : List FormatItem) : Nat := items.count .slot

/-- A format with its conversions replaced by arguments, none if these are too many or too few. -/
def fillFormat : List FormatItem → List String → Option (List Char)
  | [], [] => some []
  | .text c :: items, args => (fillFormat items args).map (c :: ·)
  | .slot :: items, a :: args => (fillFormat items args).map (a.toList ++ ·)
  | [], _ :: _ | .slot :: _, [] => none

/-- A text with its flagged characters replaced by others, in order. -/
def substitute : List Char → List Bool → List String → List Char
  | _ :: cs, true :: fs, a :: args => a.toList ++ substitute cs fs args
  | c :: cs, _ :: fs, args => c :: substitute cs fs args
  | _, _, _ => []

/-- The number of question marks that become conversions. -/
def placeholders (sql : String) : Nat := (Place.plain.marks sql.toList).count true

/-- The converted statement is a format with a conversion for each placeholder and no other, and
formatting it gives the statement with its placeholders replaced and nothing else changed. -/
structure Formats (sql : String) (items : List FormatItem) : Prop where
  read : readFormat (convertPlaceholders sql).toList = some items
  count : slots items = placeholders sql
  filled : ∀ args : List String, args.length = placeholders sql →
    fillFormat items args = some (substitute sql.toList (Place.plain.marks sql.toList) args)

/-! ## Reading formats -/

theorem readFormat_cons {c : Char} (hc : c ≠ '%') (cs : List Char) :
    readFormat (c :: cs) = (readFormat cs).map (.text c :: ·) := by
  rw [readFormat.eq_def]
  split <;> simp_all

theorem readFormat_formatChar (c : Char) (cs : List Char) :
    readFormat (formatChar c ++ cs) = (readFormat cs).map (.text c :: ·) := by
  unfold formatChar
  by_cases hc : c = '%'
  · subst hc
    rfl
  · rw [if_neg hc]
    exact readFormat_cons hc cs

/-- A percent sign before anything but another one and an `s` spoils the format. -/
theorem readFormat_percent {c : Char} (hpercent : c ≠ '%') (hs : c ≠ 's') (cs : List Char) :
    readFormat ('%' :: c :: cs) = none := by
  simp [readFormat, hpercent, hs]

/-! ## Statements without escaped percent signs -/

/-- The parts that a statement has as a format. -/
def parts (cs : List Char) (fs : List Bool) : List FormatItem :=
  List.zipWith (fun c f => if f then .slot else .text c) cs fs

def Place.IsEscaped (p : Place) : Prop := ∃ q, p = .escaped q

/-- A percent sign stands behind a backslash in quotes. -/
def EscapesPercent (sql : String) : Prop := Place.plain.Meets '%' Place.IsEscaped sql.toList

namespace Place

variable {p : Place} {q : Quote} {c : Char} {cs : List Char} {items : List FormatItem}

theorem readFormat_mark (cs : List Char) :
    readFormat (plain.written '?' ++ cs) = (readFormat cs).map (.slot :: ·) := rfl

/-- Any other character is a part of the format, unless it is a percent sign that was copied. -/
theorem readFormat_written (hmark : ¬ (p = .plain ∧ c = '?')) (hcopied : ¬ (c = '%' ∧ p.IsEscaped))
    (cs : List Char) :
    readFormat (p.written c ++ cs) = (readFormat cs).map (.text c :: ·) := by
  cases p with
  | plain => rw [written, if_neg (by simpa using hmark), readFormat_formatChar]
  | quoted q => exact readFormat_formatChar c cs
  | escaped q => exact readFormat_cons (fun hc => hcopied ⟨hc, q, rfl⟩) cs

theorem readFormat_converted (h : ¬ p.Meets '%' IsEscaped cs) :
    readFormat (p.converted cs) = some (parts cs (p.marks cs)) := by
  induction cs generalizing p with
  | nil => rfl
  | cons c cs ih =>
    obtain ⟨hhere, hrest⟩ := not_or.mp (mt meets_cons.mpr h)
    have htail := ih hrest
    rw [converted, marks]
    by_cases hmark : p = .plain ∧ c = '?'
    · obtain ⟨rfl, rfl⟩ := hmark
      rw [readFormat_mark, htail]
      rfl
    · rw [readFormat_written hmark hhere, htail, decide_eq_false hmark]
      rfl

end Place

theorem slots_parts : ∀ (cs : List Char) (fs : List Bool), fs.length = cs.length →
    slots (parts cs fs) = fs.count true
  | [], [], _ => rfl
  | c :: cs, f :: fs, h => by
    have htail := slots_parts cs fs (Nat.succ.inj h)
    cases f <;> simpa [slots, parts] using htail

theorem fillFormat_parts : ∀ (cs : List Char) (fs : List Bool) (args : List String),
    fs.length = cs.length → args.length = fs.count true →
    fillFormat (parts cs fs) args = some (substitute cs fs args)
  | [], [], [], _, _ => rfl
  | c :: cs, false :: fs, args, h, hargs => by
    have htail := fillFormat_parts cs fs args (Nat.succ.inj h) (by simpa using hargs)
    show (fillFormat (parts cs fs) args).map (c :: ·) = _
    rw [htail]
    cases args <;> rfl
  | c :: cs, true :: fs, a :: args, h, hargs => by
    have htail := fillFormat_parts cs fs args (Nat.succ.inj h) (by simpa using hargs)
    show (fillFormat (parts cs fs) args).map (a.toList ++ ·) = _
    rw [htail]
    rfl
  | _ :: _, true :: _, [], _, hargs => by simp at hargs

theorem Place.length_marks (p : Place) (cs : List Char) : (p.marks cs).length = cs.length := by
  induction cs generalizing p with
  | nil => rfl
  | cons c cs ih => rw [marks, List.length_cons, List.length_cons, ih]

/-! ## Statements with escaped percent signs -/

@[simp] theorem slots_text (c : Char) (items : List FormatItem) :
    slots (.text c :: items) = slots items := rfl

@[simp] theorem slots_slot (items : List FormatItem) :
    slots (.slot :: items) = slots items + 1 := List.count_cons_self

theorem Place.count_marks_cons (p : Place) (c : Char) (cs : List Char) :
    (p.marks (c :: cs)).count true =
      ((p.next c).marks cs).count true + if p = .plain ∧ c = '?' then 1 else 0 := by
  rw [marks, List.count_cons]
  simp

/-- Behind a percent sign that was copied, a doubled one leaves another to be read, and an `s` is a
conversion; all else spoils the format. -/
theorem Place.readFormat_copied {q : Quote} {c : Char} {cs : List Char} {items : List FormatItem}
    (h : readFormat ('%' :: (quoted q).converted (c :: cs)) = some items) :
    (c = '%' ∧ ∃ rest, readFormat ('%' :: (quoted q).converted cs) = some rest ∧
      items = .text '%' :: rest) ∨
    (c = 's' ∧ ∃ rest, readFormat (((quoted q).next 's').converted cs) = some rest ∧
      items = .slot :: rest) := by
  by_cases hpercent : c = '%'
  · subst hpercent
    have hnext : (quoted q).next '%' = .quoted q := by cases q <;> rfl
    rw [converted, hnext] at h
    obtain ⟨rest, hrest, rfl⟩ := Option.map_eq_some_iff.mp
      (show (readFormat ('%' :: (quoted q).converted cs)).map _ = _ from h)
    exact .inl ⟨rfl, rest, hrest, rfl⟩
  have hwritten : (quoted q).written c = [c] := if_neg hpercent
  rw [converted, hwritten, List.singleton_append] at h
  by_cases hs : c = 's'
  · subst hs
    obtain ⟨rest, hrest, rfl⟩ := Option.map_eq_some_iff.mp
      (show (readFormat (converted _ cs)).map _ = _ from h)
    exact .inr ⟨rfl, rest, hrest, rfl⟩
  · rw [readFormat_percent hpercent hs] at h
    cases h

/-- As a format the conversion has no fewer conversions than the text has placeholders, and more if
a percent sign was copied. Behind one the doubled percent signs are read in the wrong pairs, until a
character comes that makes it a conversion or spoils the format: that is the second part. -/
theorem Place.marks_le_slots (cs : List Char) :
    (∀ (p : Place) (items : List FormatItem), readFormat (p.converted cs) = some items →
      (p.marks cs).count true ≤ slots items ∧
        (p.Meets '%' IsEscaped cs → (p.marks cs).count true < slots items)) ∧
    ∀ (q : Quote) (items : List FormatItem),
      readFormat ('%' :: (Place.quoted q).converted cs) = some items →
        ((Place.quoted q).marks cs).count true < slots items := by
  induction cs with
  | nil => exact ⟨fun p _ _ => ⟨Nat.zero_le _, fun h => absurd h (p.not_meets_nil _ _)⟩, nofun⟩
  | cons c cs ih =>
    obtain ⟨haligned, hcopying⟩ := ih
    constructor
    · intro p items h
      rw [converted] at h
      rw [count_marks_cons, meets_cons]
      by_cases hcopied : c = '%' ∧ IsEscaped p
      · obtain ⟨rfl, q, rfl⟩ := hcopied
        have hmore := hcopying q items h
        rw [if_neg (by simp)]
        exact ⟨Nat.le_of_lt hmore, fun _ => hmore⟩
      by_cases hmark : p = .plain ∧ c = '?'
      · obtain ⟨rfl, rfl⟩ := hmark
        rw [readFormat_mark] at h
        obtain ⟨items, hitems, rfl⟩ := Option.map_eq_some_iff.mp h
        obtain ⟨hle, hlt⟩ := haligned _ _ hitems
        rw [if_pos ⟨rfl, rfl⟩, slots_slot]
        exact ⟨Nat.succ_le_succ hle, fun hmeets =>
          Nat.succ_lt_succ (hlt (hmeets.resolve_left hcopied))⟩
      · rw [readFormat_written hmark hcopied] at h
        obtain ⟨items, hitems, rfl⟩ := Option.map_eq_some_iff.mp h
        obtain ⟨hle, hlt⟩ := haligned _ _ hitems
        rw [if_neg hmark]
        exact ⟨hle, fun hmeets => hlt (hmeets.resolve_left hcopied)⟩
    · intro q items h
      rw [count_marks_cons, if_neg (by simp)]
      obtain ⟨rfl, rest, hrest, rfl⟩ | ⟨rfl, rest, hrest, rfl⟩ := readFormat_copied h
      · have hnext : (Place.quoted q).next '%' = .quoted q := by cases q <;> rfl
        rw [hnext, slots_text]
        exact hcopying q rest hrest
      · rw [slots_slot]
        exact Nat.lt_succ_of_le (haligned _ _ hrest).1

/-! ## Formatting -/

/-- A converted statement is a format for it exactly if it escapes no percent sign. -/
theorem formats_iff (sql : String) : (∃ items, Formats sql items) ↔ ¬ EscapesPercent sql := by
  constructor
  · rintro ⟨items, h⟩ hescapes
    have hread := h.read
    rw [toList_convertPlaceholders] at hread
    have hmore := ((Place.marks_le_slots sql.toList).1 .plain items hread).2 hescapes
    exact absurd h.count (Nat.ne_of_gt hmore)
  · intro h
    have hlength := Place.plain.length_marks sql.toList
    refine ⟨parts sql.toList (Place.plain.marks sql.toList), ?_, slots_parts _ _ hlength, ?_⟩
    · rw [toList_convertPlaceholders]
      exact Place.readFormat_converted h
    · intro args hargs
      exact fillFormat_parts _ _ args hlength hargs

/-- A percent sign behind a backslash in a string spoils the format. -/
theorem escaped_percent_not_formats : ¬ ∃ items, Formats "SELECT 'a\\%b', ?" items := by
  rintro ⟨items, h⟩
  have hnone : readFormat (convertPlaceholders "SELECT 'a\\%b', ?").toList = none := by
    rw [toList_convertPlaceholders]
    decide +kernel
  rw [h.read] at hnone
  cases hnone

end SqlDesk.Sql
