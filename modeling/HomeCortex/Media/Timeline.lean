/-
# The timeline of the media index

The index orders its records by the texts of their capture times.  All of them are in UTC, and
the fields of `datetime.isoformat` have fixed widths down to the seconds, so the texts are
ordered as the times (`UtcTime.isoformat_lt`).  The pages of a listing are cut from one sorted
list, and a reader that follows `next_offset` reads that list (`follow_mediaPage`).
-/

import HomeCortex.Library.Paging
import HomeCortex.Media.Index

namespace HomeCortex
namespace Media

/-! ### Numbers of a fixed width -/

theorem digit_range {c : Char} (h : c.isDigit = true) : 48 ≤ c.toNat ∧ c.toNat ≤ 57 :=
  Char.isDigit_iff_toNat.1 h

/-- The digits to come decide less than the last digit read. -/
theorem ofDigitChars_bounds {digits : List Char} (hdigits : ∀ c ∈ digits, c.isDigit = true)
    (acc : Nat) : acc * 10 ^ digits.length ≤ Nat.ofDigitChars 10 digits acc ∧
      Nat.ofDigitChars 10 digits acc < (acc + 1) * 10 ^ digits.length := by
  induction digits generalizing acc with
  | nil => simp
  | cons c digits ih =>
      have hc := digit_range (hdigits c List.mem_cons_self)
      obtain ⟨hlow, hhigh⟩ := ih (fun d hd => hdigits d (List.mem_cons_of_mem c hd))
        (10 * acc + (c.toNat - 48))
      have hle : acc * 10 ≤ 10 * acc + (c.toNat - 48) := by omega
      have hlt : 10 * acc + (c.toNat - 48) + 1 ≤ (acc + 1) * 10 := by omega
      rw [Nat.ofDigitChars_cons, List.length_cons, Nat.pow_succ', ← Nat.mul_assoc,
        ← Nat.mul_assoc]
      exact ⟨(Nat.mul_le_mul_right _ hle).trans hlow,
        hhigh.trans_le (Nat.mul_le_mul_right _ hlt)⟩

/-- Of two numbers with as many digits the smaller one comes first, whatever follows. -/
theorem append_lt_of_ofDigitChars_lt {digits digits' : List Char}
    (hdigits : ∀ c ∈ digits, c.isDigit = true) (hdigits' : ∀ c ∈ digits', c.isDigit = true)
    (hlength : digits.length = digits'.length) {acc : Nat} (rest rest' : List Char)
    (h : Nat.ofDigitChars 10 digits acc < Nat.ofDigitChars 10 digits' acc) :
    digits ++ rest < digits' ++ rest' := by
  induction digits generalizing digits' acc with
  | nil =>
      obtain rfl := List.eq_nil_of_length_eq_zero hlength.symm
      exact absurd h (lt_irrefl _)
  | cons c digits ih =>
      cases digits' with
      | nil => cases hlength
      | cons d digits' =>
          have hrest := fun e he => hdigits e (List.mem_cons_of_mem c he)
          have hrest' := fun e he => hdigits' e (List.mem_cons_of_mem d he)
          have hlen : digits.length = digits'.length := Nat.succ.inj hlength
          have hc := digit_range (hdigits c List.mem_cons_self)
          have hd := digit_range (hdigits' d List.mem_cons_self)
          rw [Nat.ofDigitChars_cons, Nat.ofDigitChars_cons] at h
          rw [List.cons_append, List.cons_append, List.cons_lt_cons_iff]
          rcases lt_trichotomy c.toNat d.toNat with hlt | heq | hgt
          · exact Or.inl hlt
          · obtain rfl : c = d := Char.toNat_inj.1 heq
            exact Or.inr ⟨rfl, ih hrest hrest' hlen h⟩
          · -- a larger first digit makes the number larger
            have hlow := (ofDigitChars_bounds hrest (10 * acc + (c.toNat - 48))).1
            have hhigh := (ofDigitChars_bounds hrest' (10 * acc + (d.toNat - 48))).2
            have hle : 10 * acc + (d.toNat - 48) + 1 ≤ 10 * acc + (c.toNat - 48) := by omega
            rw [← hlen] at hhigh
            exact absurd h (hhigh.trans_le ((Nat.mul_le_mul_right _ hle).trans hlow)).not_gt

/-- A field of a text, before the fields that count where it is the same. -/
theorem padded_append_lt {width n m : Nat} (hwidth : 0 < width) (hn : n < 10 ^ width)
    (hm : m < 10 ^ width) {rest rest' : List Char} (h : n < m ∨ n = m ∧ rest < rest') :
    (padded width n).toList ++ rest < (padded width m).toList ++ rest' := by
  obtain ⟨hlength, hdigits⟩ := padded_digits hwidth hn
  obtain ⟨hlength', hdigits'⟩ := padded_digits hwidth hm
  rcases h with hlt | ⟨rfl, hrest⟩
  · have hvalue : ∀ k, Nat.ofDigitChars 10 (padded width k).toList 0 = k := by
      intro k
      rw [Nat.ofDigitChars_eq_foldl]
      exact padded_value width k
    have hnumbers : Nat.ofDigitChars 10 (padded width n).toList 0
        < Nat.ofDigitChars 10 (padded width m).toList 0 := by
      rw [hvalue, hvalue]
      exact hlt
    exact append_lt_of_ofDigitChars_lt hdigits hdigits' (hlength.trans hlength'.symm) rest rest'
      hnumbers
  · exact List.append_left_lt hrest

/-! ### Texts of UTC times -/

/-- The microseconds of a second and the offset of UTC. -/
def secondTail (micros : Nat) : List Char :=
  (if micros % 1000000 = 0 then [] else '.' :: (padded 6 (micros % 1000000)).toList) ++
    (offsetText 0).toList

theorem isoformat_toList (wall : WallTime) : (wall.isoformat 0).toList =
    (padded 4 wall.date.year).toList ++ '-' :: ((padded 2 wall.date.month).toList ++
      '-' :: ((padded 2 wall.date.day).toList ++
      'T' :: ((padded 2 (wall.micros / 3600000000)).toList ++
      ':' :: ((padded 2 (wall.micros / 60000000 % 60)).toList ++
      ':' :: ((padded 2 (wall.micros / 1000000 % 60)).toList ++ secondTail wall.micros))))) := by
  by_cases h : wall.micros % 1000000 = 0 <;>
    simp [WallTime.isoformat, PyDate.isoformat, minutesText, secondsText, secondTail, h]

/-- A whole second comes before its fractions: `+` before `.`. -/
theorem secondTail_lt {n m : Nat} (h : n % 1000000 < m % 1000000) :
    secondTail n < secondTail m := by
  have hm : ¬ m % 1000000 = 0 := by omega
  have hbound : m % 1000000 < 10 ^ 6 := Nat.mod_lt _ (by decide)
  rw [secondTail, secondTail, if_neg hm]
  by_cases hn : n % 1000000 = 0
  · rw [if_pos hn, List.nil_append, List.cons_append]
    exact List.cons_lt_cons_iff.2 (Or.inl (by decide))
  · rw [if_neg hn, List.cons_append, List.cons_append, List.cons_lt_cons_iff]
    exact Or.inr ⟨rfl, padded_append_lt (by decide) (by omega) hbound (Or.inl h)⟩

/-- The time of day of a text. -/
theorem clock_lt {n m : Nat} (hn : n < dayMicros) (hm : m < dayMicros) (h : n < m) :
    (padded 2 (n / 3600000000)).toList ++ ':' :: ((padded 2 (n / 60000000 % 60)).toList ++
        ':' :: ((padded 2 (n / 1000000 % 60)).toList ++ secondTail n)) <
      (padded 2 (m / 3600000000)).toList ++ ':' :: ((padded 2 (m / 60000000 % 60)).toList ++
        ':' :: ((padded 2 (m / 1000000 % 60)).toList ++ secondTail m)) := by
  have hday : dayMicros = 86400000000 := rfl
  refine padded_append_lt (by decide) (by omega) (by omega) ?_
  by_cases hhour : n / 3600000000 < m / 3600000000
  · exact Or.inl hhour
  refine Or.inr ⟨by omega, List.cons_lt_cons_iff.2 (Or.inr ⟨rfl, ?_⟩)⟩
  refine padded_append_lt (by decide) (by omega) (by omega) ?_
  by_cases hminute : n / 60000000 % 60 < m / 60000000 % 60
  · exact Or.inl hminute
  refine Or.inr ⟨by omega, List.cons_lt_cons_iff.2 (Or.inr ⟨rfl, ?_⟩)⟩
  refine padded_append_lt (by decide) (by omega) (by omega) ?_
  by_cases hsecond : n / 1000000 % 60 < m / 1000000 % 60
  · exact Or.inl hsecond
  exact Or.inr ⟨by omega, secondTail_lt (by omega)⟩

/-- The date of a text. -/
theorem date_lt {date other : PyDate} {rest rest' : List Char}
    (h : date.toordinal < other.toordinal ∨ date = other ∧ rest < rest') :
    (padded 4 date.year).toList ++ '-' :: ((padded 2 date.month).toList ++
        '-' :: ((padded 2 date.day).toList ++ 'T' :: rest)) <
      (padded 4 other.year).toList ++ '-' :: ((padded 2 other.month).toList ++
        '-' :: ((padded 2 other.day).toList ++ 'T' :: rest')) := by
  have hyears : date.year < 10 ^ 4 ∧ other.year < 10 ^ 4 := by
    have := date.year_range
    have := other.year_range
    omega
  have hmonths := date.month_range
  have hmonths' := other.month_range
  have hdays : date.day < 10 ^ 2 ∧ other.day < 10 ^ 2 := by
    have := (@daysInMonth_bounds date.year _ hmonths).2
    have := (@daysInMonth_bounds other.year _ hmonths').2
    have := date.day_range
    have := other.day_range
    omega
  rcases h with hlt | ⟨rfl, hrest⟩
  · rw [PyDate.toordinal_lt_iff, PyDate.monthIndex, PyDate.monthIndex] at hlt
    refine padded_append_lt (by decide) hyears.1 hyears.2 ?_
    by_cases hyear : date.year < other.year
    · exact Or.inl hyear
    refine Or.inr ⟨by omega, List.cons_lt_cons_iff.2 (Or.inr ⟨rfl, ?_⟩)⟩
    refine padded_append_lt (by decide) (by omega) (by omega) ?_
    by_cases hmonth : date.month < other.month
    · exact Or.inl hmonth
    refine Or.inr ⟨by omega, List.cons_lt_cons_iff.2 (Or.inr ⟨rfl, ?_⟩)⟩
    exact padded_append_lt (by decide) hdays.1 hdays.2 (Or.inl (by omega))
  · exact List.append_left_lt (List.cons_lt_cons_self.2 (List.append_left_lt
      (List.cons_lt_cons_self.2 (List.append_left_lt (List.cons_lt_cons_self.2 hrest)))))

/-- A date is determined by its ordinal. -/
theorem eq_of_toordinal_eq {date other : PyDate} (h : date.toordinal = other.toordinal) :
    date = other := by
  have hdate := dateOfOrdinal_toordinal date
  rw [h, dateOfOrdinal_toordinal] at hdate
  exact (Option.some.inj hdate).symm

namespace UtcTime

/-- **The texts are ordered as the times.** -/
theorem isoformat_lt {a b : UtcTime} (h : a.value < b.value) : a.isoformat < b.isoformat := by
  have ha := a.micros_range
  have hb := b.micros_range
  have hday : (dayMicros : Int) = 86400000000 := rfl
  have horder : a.wall.date.toordinal < b.wall.date.toordinal ∨
      a.wall.date.toordinal = b.wall.date.toordinal ∧ a.wall.micros < b.wall.micros := by
    simp only [value, WallTime.value, hday] at h
    omega
  rw [String.lt_iff_toList_lt, isoformat, isoformat, isoformat_toList, isoformat_toList]
  refine date_lt ?_
  rcases horder with hdate | ⟨hdate, hmicros⟩
  · exact Or.inl hdate
  · exact Or.inr ⟨eq_of_toordinal_eq hdate, clock_lt ha hb hmicros⟩

/-- The order of the texts tells the order of the times. -/
theorem value_le_of_isoformat_le {a b : UtcTime} (h : a.isoformat ≤ b.isoformat) :
    a.value ≤ b.value :=
  not_lt.1 fun hlt => absurd (isoformat_lt hlt) h.not_gt

end UtcTime

/-! ### Listing the records -/

/-- The instant of a row, as `MediaItem` reads the text of its capture time. -/
def IndexRow.instant? (row : IndexRow) : Option Int :=
  (datetimeFromIsoformat row.captured_at).map PyDatetime.utcMicros

/-- A row written with a UTC time has its instant. -/
theorem instant?_of_isoformat {row : IndexRow} {time : UtcTime}
    (h : row.captured_at = time.isoformat) : row.instant? = some time.value := by
  obtain ⟨d, hread, hlocal, hoffset⟩ :=
    @datetimeFromIsoformat_isoformat time.wall 0 time.micros_range (by decide)
  rw [IndexRow.instant?, h, UtcTime.isoformat, hread, Option.map_some, PyDatetime.utcMicros,
    hlocal, hoffset]
  exact congrArg some (Int.sub_zero _)

namespace Index

variable (index : Index) (media_type : Option MediaType)

theorem mem_timeline {id : String} {row : IndexRow} :
    (id, row) ∈ index.timeline media_type ↔
      index.lookup id = some row ∧ media_type.all (row.media_type = ·) = true := by
  rw [timeline, List.mem_mergeSort, AList.mem_select]

theorem nodup_timeline : ((index.timeline media_type).map Prod.fst).Nodup := by
  have hperm := (List.mergeSort_perm (index.select fun _ row =>
    media_type.all (row.media_type = ·)) timelineOrder).map Prod.fst
  exact hperm.nodup_iff.2 (index.nodup_select _)

/-- The rows are in the order of their texts, the last one first. -/
theorem pairwise_timeline : (index.timeline media_type).Pairwise fun a b =>
    b.2.captured_at ≤ a.2.captured_at := by
  have htrans : ∀ a b c, timelineOrder a b = true → timelineOrder b c = true →
      timelineOrder a c = true := by
    intro a b c hab hbc
    simp only [timelineOrder, decide_eq_true_eq] at hab hbc ⊢
    exact hbc.trans hab
  have htotal : ∀ a b, (timelineOrder a b || timelineOrder b a) = true := by
    intro a b
    simp only [timelineOrder, Bool.or_eq_true, decide_eq_true_eq]
    exact le_total _ _
  refine (List.pairwise_mergeSort htrans htotal _).imp fun {a b} hab => ?_
  simp only [timelineOrder, decide_eq_true_eq, Prod.Lex.toLex_le_toLex] at hab
  rcases hab with hlt | ⟨heq, -⟩
  · exact hlt.le
  · exact heq.le

/-- The pages of the route are cut from the timeline. -/
theorem mediaPage_eq (page_size : Nat) (limit : Option Nat) (offset : Nat) :
    ((index.mediaPage page_size media_type limit offset).items,
        (index.mediaPage page_size media_type limit offset).next_offset) =
      Paging.pageOf (index.timeline media_type) (limit.getD page_size) offset := rfl

/-- **Following `next_offset` reads the timeline.** -/
theorem follow_mediaPage {page_size : Nat} {limit : Option Nat}
    (hlimit : 1 ≤ limit.getD page_size) :
    Paging.follow (fun offset => ((index.mediaPage page_size media_type limit offset).items,
        (index.mediaPage page_size media_type limit offset).next_offset))
      ((index.timeline media_type).length + 1) 0 = some (index.timeline media_type) := by
  have hfollow := @Paging.follow_pageOf _ (index.timeline media_type) _ hlimit
    ((index.timeline media_type).length + 1) 0 (by omega) (Nat.zero_le _)
  exact hfollow

end Index

end Media
end HomeCortex
