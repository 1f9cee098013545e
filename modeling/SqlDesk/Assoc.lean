/-!
# Ordered mappings

A mapping that remembers the order in which its keys first came: a key written again keeps its
place and its first spelling, and takes the new value.
-/

namespace SqlDesk

/-- A mapping as the list of its entries in insertion order. -/
abbrev Assoc (κ α : Type) := List (κ × α)

namespace Assoc

variable {κ α β : Type} [BEq κ]

/-- The value of a key. -/
def get? (m : Assoc κ α) (k : κ) : Option α := (m.find? fun e => e.1 == k).map Prod.snd

def has (m : Assoc κ α) (k : κ) : Bool := m.any fun e => e.1 == k

/-- Write a value under a key. -/
def put : Assoc κ α → κ → α → Assoc κ α
  | [], k, v => [(k, v)]
  | e :: m, k, v => if e.1 == k then (e.1, v) :: m else e :: put m k v

def erase (m : Assoc κ α) (k : κ) : Assoc κ α := m.filter fun e => !(e.1 == k)

/-- Write all entries of `n` into `m`, in order. -/
def merge (m n : Assoc κ α) : Assoc κ α := n.foldl (fun m e => m.put e.1 e.2) m

/-- The mapping of a list of entries: the last value of a key wins, at the place of its first. -/
def ofList (es : List (κ × α)) : Assoc κ α := merge [] es

def keys (m : Assoc κ α) : List κ := m.map Prod.fst

def values (m : Assoc κ α) : List α := m.map Prod.snd

@[simp] theorem get?_nil (k : κ) : get? ([] : Assoc κ α) k = none := rfl

theorem get?_cons (e : κ × α) (m : Assoc κ α) (k : κ) :
    get? (e :: m) k = if e.1 == k then some e.2 else get? m k := by
  unfold get?
  by_cases h : (e.1 == k) = true <;> simp [h]

@[simp] theorem put_nil (k : κ) (v : α) : put ([] : Assoc κ α) k v = [(k, v)] := rfl

theorem put_cons (e : κ × α) (m : Assoc κ α) (k : κ) (v : α) :
    put (e :: m) k v = if e.1 == k then (e.1, v) :: m else e :: put m k v := rfl

/-- Reading after writing, when key equality is genuine. -/
theorem get?_put [LawfulBEq κ] (m : Assoc κ α) (k l : κ) (v : α) :
    get? (put m k v) l = if k == l then some v else get? m l := by
  induction m with
  | nil => simp [get?_cons]
  | cons e m ih =>
    by_cases he : e.1 = k
    · subst he
      by_cases hl : e.1 = l <;> simp [put_cons, get?_cons, hl]
    · by_cases hl : k = l
      · subst hl
        simp [put_cons, get?_cons, he, ih]
      · simp [put_cons, get?_cons, he, ih, hl]

end Assoc

end SqlDesk
