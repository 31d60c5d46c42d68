/-! Dictionaries from texts to values, kept strictly increasing in the key, so that two
dictionaries with the same look-ups are equal and every listing is in code point order. -/

namespace Relocation

/-- Entries with strictly increasing keys. -/
structure Dictionary (α : Type) where
  entries : List (String × α)
  sorted : entries.Pairwise (fun a b => a.1 < b.1)

namespace Dictionary

variable {α β : Type}

theorem ext {d e : Dictionary α} (h : d.entries = e.entries) : d = e := by
  cases d; cases e; cases h; rfl

instance [DecidableEq α] : DecidableEq (Dictionary α) := fun d e =>
  decidable_of_iff (d.entries = e.entries) ⟨ext, fun h => h ▸ rfl⟩

def empty : Dictionary α := ⟨[], .nil⟩

instance : Inhabited (Dictionary α) := ⟨empty⟩

def put (k : String) (v : α) : List (String × α) → List (String × α)
  | [] => [(k, v)]
  | (k', v') :: rest =>
    if k < k' then (k, v) :: (k', v') :: rest
    else if k = k' then (k, v) :: rest
    else (k', v') :: put k v rest

theorem mem_put {k : String} {v : α} {e : String × α} {l : List (String × α)} :
    e ∈ put k v l → e = (k, v) ∨ e ∈ l := by
  induction l with
  | nil => simp [put]
  | cons hd tl ih =>
    obtain ⟨k', v'⟩ := hd
    rw [put]
    split
    · simp
    · split
      · intro h
        rcases List.mem_cons.mp h with h | h
        · exact .inl h
        · exact .inr (List.mem_cons_of_mem _ h)
      · intro h
        rcases List.mem_cons.mp h with h | h
        · exact .inr (h ▸ List.mem_cons_self)
        · exact (ih h).imp id (List.mem_cons_of_mem _)

theorem lt_of_not_lt {a b : String} (h : ¬ a < b) (hne : ¬ a = b) : b < a := by
  rcases Std.lt_trichotomy a b with h' | h' | h'
  · exact absurd h' h
  · exact absurd h' hne
  · exact h'

theorem put_sorted (k : String) (v : α) {l : List (String × α)}
    (h : l.Pairwise (fun a b => a.1 < b.1)) :
    (put k v l).Pairwise (fun a b => a.1 < b.1) := by
  induction l with
  | nil => simp [put]
  | cons hd tl ih =>
    obtain ⟨k', v'⟩ := hd
    have hhd : ∀ e ∈ tl, k' < e.1 := fun e he => List.rel_of_pairwise_cons h he
    rw [put]
    split
    · next hlt =>
      refine List.pairwise_cons.mpr ⟨fun e he => ?_, h⟩
      rcases List.mem_cons.mp he with he | he
      · exact he ▸ hlt
      · exact String.lt_trans hlt (hhd e he)
    · next hnlt =>
      split
      · next heq =>
        subst heq
        exact List.pairwise_cons.mpr ⟨hhd, h.of_cons⟩
      · next hne =>
        refine List.pairwise_cons.mpr ⟨fun e he => ?_, ih h.of_cons⟩
        rcases mem_put he with he | he
        · exact he ▸ lt_of_not_lt hnlt hne
        · exact hhd e he

def insert (d : Dictionary α) (k : String) (v : α) : Dictionary α :=
  ⟨put k v d.entries, put_sorted k v d.sorted⟩

def get? (d : Dictionary α) (k : String) : Option α :=
  (d.entries.find? (fun e => e.1 = k)).map (·.2)

def contains (d : Dictionary α) (k : String) : Bool := (d.get? k).isSome

def filter (p : String → α → Bool) (d : Dictionary α) : Dictionary α :=
  ⟨d.entries.filter (fun e => p e.1 e.2), d.sorted.sublist List.filter_sublist⟩

def erase (d : Dictionary α) (k : String) : Dictionary α := d.filter (fun k' _ => k' ≠ k)

def map (f : α → β) (d : Dictionary α) : Dictionary β :=
  ⟨d.entries.map (fun e => (e.1, f e.2)), List.pairwise_map.mpr d.sorted⟩

/-- Puts the entries in one after another: the last one with a key wins. -/
def insertAll (d : Dictionary α) (l : List (String × α)) : Dictionary α :=
  l.foldl (fun d e => d.insert e.1 e.2) d

def ofList (l : List (String × α)) : Dictionary α := empty.insertAll l

/-- All entries of both; `e` wins where both have a key. -/
def merge (d e : Dictionary α) : Dictionary α := d.insertAll e.entries

def size (d : Dictionary α) : Nat := d.entries.length

def isEmpty (d : Dictionary α) : Bool := d.entries.isEmpty

def keys (d : Dictionary α) : List String := d.entries.map (·.1)

def values (d : Dictionary α) : List α := d.entries.map (·.2)

instance : EmptyCollection (Dictionary α) := ⟨empty⟩

end Dictionary

end Relocation
