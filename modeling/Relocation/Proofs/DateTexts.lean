import Relocation.Date
import Relocation.Proofs.DecimalDigits

/-! A date is read back from its text, in whatever year it is. -/

namespace Relocation.Date

open Text

theorem readDigits?_append {most : Nat} {ds rest : List Char} (h : ∀ c ∈ ds, c.isDigit = true)
    (hne : ds ≠ []) (hmost : ds.length ≤ most) (hrest : ∀ c ∈ rest.head?, c.isDigit = false) :
    readDigits? most (ds ++ rest) = some (digitsValue 0 ds, rest) := by
  simp [readDigits?, takeWhile_isDigit_append h hrest, List.take_of_length_le hmost, hne]

theorem readDigits?_paddedDigits (most width n : Nat) {rest : List Char}
    (hmost : (paddedDigits width n).length ≤ most)
    (hrest : ∀ c ∈ rest.head?, c.isDigit = false) :
    readDigits? most (paddedDigits width n ++ rest) = some (n, rest) := by
  have hdigits : ∀ c ∈ paddedDigits width n, c.isDigit = true :=
    fun _ => isDigit_of_mem_paddedDigits
  rw [readDigits?_append hdigits (paddedDigits_ne_nil _ _) hmost hrest, digitsValue_paddedDigits]

/-- A month or a day is read whatever stands around it. -/
theorem readDigits?_trimLeft_paddedDigits {n : Nat} {rest : List Char} (h : n < 10 ^ 2)
    (hrest : ∀ c ∈ rest.head?, c.isDigit = false) :
    readDigits? 2 (trimLeft (paddedDigits 2 n ++ rest)) = some (n, rest) := by
  have hlength : (paddedDigits 2 n).length = 2 := length_paddedDigits (by decide) h
  rw [trimLeft_of_isDigit (paddedDigits_ne_nil 2 n) fun _ => isDigit_of_mem_paddedDigits]
  exact readDigits?_paddedDigits 2 2 n hlength.le hrest

/-- Years before 0 and after 9999 have their sign in front. -/
theorem toList_yearText (year : Int) : (yearText year).toList =
    if year < 0 then '-' :: paddedDigits 4 year.natAbs
    else if year ≤ 9999 then paddedDigits 4 year.natAbs
    else '+' :: paddedDigits 4 year.natAbs := by
  unfold yearText
  dsimp only
  split
  · rw [String.toList_append, toList_padLeft_toString]
    rfl
  · split
    · rw [toList_padLeft_toString]
    · rw [String.toList_append, toList_padLeft_toString]
      rfl

theorem readYear?_of_isDigit {ds : List Char} (rest : List Char) (hne : ds ≠ [])
    (h : ∀ c ∈ ds, c.isDigit = true) :
    readYear? (ds ++ rest) =
      (readDigits? 4 (ds ++ rest)).map fun (n, rest) => ((n : Int), rest) := by
  obtain ⟨d, ds, rfl⟩ := List.exists_cons_of_ne_nil hne
  have hd := h d List.mem_cons_self
  rw [List.cons_append]
  unfold readYear?
  split
  · next he => cases he; cases hd
  · next he => cases he; cases hd
  · rfl

theorem readYear?_yearText (year : Int) (rest : List Char) :
    readYear? ((yearText year).toList ++ '-' :: rest) = some (year, '-' :: rest) := by
  have hrest : ∀ c ∈ ('-' :: rest).head?, c.isDigit = false := by simp
  have hsigned := readDigits?_paddedDigits (paddedDigits 4 year.natAbs ++ '-' :: rest).length 4
    year.natAbs (by simp) hrest
  rw [toList_yearText]
  split
  · next hneg =>
    have hyear : -(year.natAbs : Int) = year := by omega
    simp only [List.cons_append, readYear?, hsigned, Option.map_some, hyear]
  · have hyear : (year.natAbs : Int) = year := by omega
    split
    · next hsmall =>
      have hlength : (paddedDigits 4 year.natAbs).length = 4 :=
        length_paddedDigits (by decide) (by omega)
      have hread := readDigits?_paddedDigits 4 4 year.natAbs hlength.le hrest
      rw [readYear?_of_isDigit _ (paddedDigits_ne_nil _ _) fun _ => isDigit_of_mem_paddedDigits]
      simp only [hread, Option.map_some, hyear]
    · simp only [List.cons_append, readYear?, hsigned, Option.map_some, hyear]

theorem trimLeft_yearText (year : Int) (rest : List Char) :
    trimLeft ((yearText year).toList ++ rest) = (yearText year).toList ++ rest := by
  have hdigits : trimLeft (paddedDigits 4 year.natAbs ++ rest) =
      paddedDigits 4 year.natAbs ++ rest :=
    trimLeft_of_isDigit (paddedDigits_ne_nil _ _) fun _ => isDigit_of_mem_paddedDigits
  rw [toList_yearText]
  split
  · rfl
  · split
    · exact hdigits
    · rfl

theorem daysInMonth_le (year : Int) (month : Nat) : daysInMonth year month ≤ 31 := by
  unfold daysInMonth
  split
  · split <;> decide
  · split <;> decide

theorem of?_self (d : Date) : of? d.year d.month d.day = some d :=
  dif_pos ⟨d.year_range, d.month_range, d.day_range⟩

theorem toList_render (d : Date) : d.render.toList =
    (yearText d.year).toList ++ '-' :: (paddedDigits 2 d.month ++ '-' :: paddedDigits 2 d.day) := by
  simp only [render, String.toList_append, toList_padLeft_toString]
  simp

theorem read?_render (d : Date) : read? d.render = some d := by
  have hmonth : d.month < 10 ^ 2 := d.month_range.2.trans_lt (by decide)
  have hday : d.day < 10 ^ 2 :=
    (d.day_range.2.trans (daysInMonth_le d.year d.month)).trans_lt (by decide)
  have hreadMonth : ∀ rest, readDigits? 2 (trimLeft (paddedDigits 2 d.month ++ '-' :: rest)) =
      some (d.month, '-' :: rest) :=
    fun rest => readDigits?_trimLeft_paddedDigits hmonth (by simp)
  have hreadDay : readDigits? 2 (trimLeft (paddedDigits 2 d.day ++ [])) = some (d.day, []) :=
    readDigits?_trimLeft_paddedDigits hday (by simp)
  have hdash : ∀ rest, readDash? ('-' :: rest) = some rest := fun _ => rfl
  rw [List.append_nil] at hreadDay
  rw [read?, toList_render, readChars?, trimLeft_yearText, readYear?_yearText]
  simp only [Option.bind_eq_bind, Option.bind_some, hdash, hreadMonth, hreadDay]
  exact of?_self d

end Relocation.Date
