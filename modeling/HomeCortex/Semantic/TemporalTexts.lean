/-
# Texts of dates and instants

A text `YYYY-MM-DD` sorts where its date does, digit by digit
(`isDateText_lt_iff`).  A datetime with `Z` denotes the same instant with the offset
`+00:00` in its place: `fromisoformat` stops reading a time at the first character
that is not part of one (`StopsAt`).
-/

import HomeCortex.Common.DatetimeTexts
import HomeCortex.Semantic.Contracts

namespace HomeCortex

/-! ### Dates -/

/-- The number that digits write after the digits of `acc`. -/
def digitsValue (acc : Nat) (cs : List Char) : Nat :=
  cs.foldl (fun acc c => 10 * acc + (c.toNat - 48)) acc

theorem digit_le {c : Char} (h : c.isDigit = true) : 48 ≤ c.toNat ∧ c.toNat ≤ 57 := by
  unfold Char.isDigit at h
  rw [Bool.and_eq_true, decide_eq_true_eq, decide_eq_true_eq] at h
  exact ⟨h.1, h.2⟩

theorem digitsValue_lt {xs ys : List Char} (hlength : xs.length = ys.length)
    (hx : xs.all Char.isDigit = true) (hy : ys.all Char.isDigit = true) :
    ∀ {a b : Nat}, a < b → digitsValue a xs < digitsValue b ys := by
  induction xs generalizing ys with
  | nil =>
      intro a b h
      obtain rfl := List.length_eq_zero_iff.1 hlength.symm
      exact h
  | cons x xs ih =>
      intro a b h
      cases ys with
      | nil => simp at hlength
      | cons y ys =>
          rw [List.all_cons, Bool.and_eq_true] at hx hy
          have hdigit := digit_le hx.1
          have hnext : 10 * a + (x.toNat - 48) < 10 * b + (y.toNat - 48) := by omega
          exact ih (by simpa using hlength) hx.2 hy.2 hnext

/-- Digits sort as the numbers they write. -/
theorem digits_lt_iff {xs ys : List Char} (hlength : xs.length = ys.length)
    (hx : xs.all Char.isDigit = true) (hy : ys.all Char.isDigit = true) (s t : List Char) :
    ∀ acc : Nat, xs ++ s < ys ++ t ↔ digitsValue acc xs < digitsValue acc ys ∨
      digitsValue acc xs = digitsValue acc ys ∧ s < t := by
  induction xs generalizing ys with
  | nil =>
      intro acc
      obtain rfl := List.length_eq_zero_iff.1 hlength.symm
      simp
  | cons x xs ih =>
      intro acc
      cases ys with
      | nil => simp at hlength
      | cons y ys =>
          rw [List.all_cons, Bool.and_eq_true] at hx hy
          have hlength' : xs.length = ys.length := by simpa using hlength
          have hdigit := digit_le hx.1
          have hdigit' := digit_le hy.1
          rw [List.cons_append, List.cons_append, List.cons_lt_cons_iff]
          rcases lt_trichotomy x y with h | rfl | h
          · have hvalue := digitsValue_lt hlength' hx.2 hy.2
              (show 10 * acc + (x.toNat - 48) < 10 * acc + (y.toNat - 48) by
                have : x.toNat < y.toNat := h
                omega)
            exact iff_of_true (.inl h) (.inl hvalue)
          · rw [ih hlength' hx.2 hy.2]
            simp only [lt_self_iff_false, true_and, false_or]
            rfl
          · have hvalue := digitsValue_lt hlength'.symm hy.2 hx.2
              (show 10 * acc + (y.toNat - 48) < 10 * acc + (x.toNat - 48) by
                have : y.toNat < x.toNat := h
                omega)
            refine iff_of_false (fun hlt => ?_) (fun hlt => ?_)
            · rcases hlt with hlt | ⟨rfl, -⟩
              · exact lt_asymm h hlt
              · exact lt_irrefl _ h
            · have : digitsValue acc (y :: ys) < digitsValue acc (x :: xs) := hvalue
              omega

/-- As many digits as asked are read. -/
theorem readDigits_append {xs : List Char} (hx : xs.all Char.isDigit = true) (rest : List Char) :
    readDigits xs.length (xs ++ rest) = some (digitsValue 0 xs, rest) := by
  unfold readDigits
  simp only [List.take_left, List.drop_left, hx, Bool.and_true, decide_true, if_true]
  rfl

/-- The date at the start of a text that starts with `YYYY-MM-DD`. -/
theorem readIsoDate_dashed {y₁ y₂ y₃ y₄ m₁ m₂ d₁ d₂ : Char}
    (hdigits : [y₁, y₂, y₃, y₄, m₁, m₂, d₁, d₂].all Char.isDigit = true) (rest : List Char) :
    readIsoDate (y₁ :: y₂ :: y₃ :: y₄ :: '-' :: m₁ :: m₂ :: '-' :: d₁ :: d₂ :: rest)
      = (mkDate (digitsValue 0 [y₁, y₂, y₃, y₄]) (digitsValue 0 [m₁, m₂])
          (digitsValue 0 [d₁, d₂])).map fun date => (date, rest) := by
  simp only [List.all_cons, List.all_nil, Bool.and_true, Bool.and_eq_true] at hdigits
  obtain ⟨hy₁, hy₂, hy₃, hy₄, hm₁, hm₂, hd₁, hd₂⟩ := hdigits
  have hweek : m₁ ≠ 'W' := by
    rintro rfl
    exact absurd hm₁ (by decide)
  have hyear := @readDigits_append [y₁, y₂, y₃, y₄] (by simp [hy₁, hy₂, hy₃, hy₄])
    ('-' :: m₁ :: m₂ :: '-' :: d₁ :: d₂ :: rest)
  have hmonth := @readDigits_append [m₁, m₂] (by simp [hm₁, hm₂]) ('-' :: d₁ :: d₂ :: rest)
  have hday := @readDigits_append [d₁, d₂] (by simp [hd₁, hd₂]) rest
  generalize digitsValue 0 [y₁, y₂, y₃, y₄] = year at hyear ⊢
  generalize digitsValue 0 [m₁, m₂] = month at hmonth ⊢
  generalize digitsValue 0 [d₁, d₂] = day at hday ⊢
  simp only [List.length_cons, List.length_nil, Nat.reduceAdd, List.cons_append,
    List.nil_append] at hyear hmonth hday
  unfold readIsoDate
  simp only [hyear, bind, Option.bind, List.head?_cons, if_true, List.drop_one,
    List.tail_cons, Option.some.injEq, hweek, if_false, hmonth, hday]
  cases mkDate year month day <;> rfl

/-- A date text is the digits of a year, a month and a day. -/
theorem isDateText_eq {cs : List Char} (h : isDateText cs = true) :
    ∃ y₁ y₂ y₃ y₄ m₁ m₂ d₁ d₂, cs = [y₁, y₂, y₃, y₄, '-', m₁, m₂, '-', d₁, d₂] ∧
      [y₁, y₂, y₃, y₄, m₁, m₂, d₁, d₂].all Char.isDigit = true := by
  unfold isDateText at h
  split at h
  case h_1 y₁ y₂ y₃ y₄ m₁ m₂ d₁ d₂ =>
    exact ⟨y₁, y₂, y₃, y₄, m₁, m₂, d₁, d₂, rfl, h⟩
  case h_2 => cases h

/-- The digits of a date text and the date they write. -/
theorem isDateText_eq_some {text : String} (h : isDateText text.toList = true) {date : PyDate}
    (hdate : dateFromIsoformat text = some date) :
    ∃ year month day : List Char, text.toList = year ++ '-' :: (month ++ '-' :: (day ++ [])) ∧
      (year.length = 4 ∧ month.length = 2 ∧ day.length = 2) ∧
      (year.all Char.isDigit = true ∧ month.all Char.isDigit = true ∧
        day.all Char.isDigit = true) ∧
      date.year = digitsValue 0 year ∧ date.month = digitsValue 0 month ∧
      date.day = digitsValue 0 day := by
  obtain ⟨y₁, y₂, y₃, y₄, m₁, m₂, d₁, d₂, htext, hdigits⟩ := isDateText_eq h
  refine ⟨[y₁, y₂, y₃, y₄], [m₁, m₂], [d₁, d₂], htext, ⟨rfl, rfl, rfl⟩, ?_, ?_⟩
  · simp only [List.all_cons, List.all_nil, Bool.and_true, Bool.and_eq_true] at hdigits ⊢
    tauto
  · unfold dateFromIsoformat at hdate
    rw [htext, readIsoDate_dashed hdigits] at hdate
    cases hread : mkDate (digitsValue 0 [y₁, y₂, y₃, y₄]) (digitsValue 0 [m₁, m₂])
        (digitsValue 0 [d₁, d₂]) with
    | none =>
        rw [hread] at hdate
        cases hdate
    | some read =>
        rw [hread] at hdate
        obtain rfl := Option.some.inj hdate
        exact mkDate_eq_some hread

/-- **Date texts sort as the dates they denote.** -/
theorem isDateText_lt_iff {text other : String} (h : isDateText text.toList = true)
    (h' : isDateText other.toList = true) {date date' : PyDate}
    (hdate : dateFromIsoformat text = some date) (hdate' : dateFromIsoformat other = some date') :
    text < other ↔ date.toordinal < date'.toordinal := by
  obtain ⟨year, month, day, htext, hlength, hdigits, hy, hm, hd⟩ := isDateText_eq_some h hdate
  obtain ⟨year', month', day', htext', hlength', hdigits', hy', hm', hd'⟩ :=
    isDateText_eq_some h' hdate'
  have hrange := date.month_range
  have hrange' := date'.month_range
  rw [String.lt_iff_toList_lt, htext, htext', PyDate.toordinal_lt_iff,
    digits_lt_iff (hlength.1.trans hlength'.1.symm) hdigits.1 hdigits'.1 _ _ 0,
    List.cons_lt_cons_iff,
    digits_lt_iff (hlength.2.1.trans hlength'.2.1.symm) hdigits.2.1 hdigits'.2.1 _ _ 0,
    List.cons_lt_cons_iff,
    digits_lt_iff (hlength.2.2.trans hlength'.2.2.symm) hdigits.2.2 hdigits'.2.2 _ _ 0,
    ← hy, ← hy', ← hm, ← hm', ← hd, ← hd']
  simp only [lt_self_iff_false, false_or, true_and, and_false, or_false]
  unfold PyDate.monthIndex
  omega

/-! ### Where a time of day ends -/

/-- What was read is a start of the text, whatever follows it. -/
theorem readDigits_eq_some {n value : Nat} {cs rest : List Char}
    (h : readDigits n cs = some (value, rest)) :
    ∃ pre : List Char, cs = pre ++ rest ∧ pre.length = n ∧ pre.all Char.isDigit = true ∧
      ∀ rest', readDigits n (pre ++ rest') = some (value, rest') := by
  unfold readDigits at h
  dsimp only at h
  split at h
  case isFalse => cases h
  case isTrue hdigits =>
    rw [Bool.and_eq_true, decide_eq_true_eq] at hdigits
    obtain ⟨hvalue, hrest⟩ := Prod.mk.inj (Option.some.inj h)
    refine ⟨cs.take n, ?_, hdigits.1, hdigits.2, fun rest' => ?_⟩
    · rw [← hrest, List.take_append_drop]
    · have hread := readDigits_append hdigits.2 rest'
      rw [hdigits.1] at hread
      rw [hread, ← hvalue]
      rfl

theorem readDigits_endsTime {n : Nat} (hn : 0 < n) {cs : List Char} (h : EndsTime cs) :
    readDigits n cs = none := by
  obtain ⟨m, rfl⟩ : ∃ m, n = m + 1 := ⟨n - 1, by omega⟩
  cases cs with
  | nil => simp [readDigits]
  | cons c cs =>
      have hc : c.isDigit = false := by
        cases hdigit : c.isDigit with
        | false => rfl
        | true => exact absurd rfl (h.ne_cons (isTimeChar_of_isDigit hdigit) cs)
      simp [readDigits, hc]

theorem readFraction_eq_some {value : Nat} {cs rest : List Char}
    (h : readFraction cs = some (value, rest)) :
    ∃ pre : List Char, cs = pre ++ rest ∧ pre.all Char.isDigit = true ∧
      ∀ rest', EndsTime rest' → readFraction (pre ++ rest') = some (value, rest') := by
  unfold readFraction at h
  dsimp only at h
  split at h
  case isTrue => cases h
  case isFalse hnonempty =>
    obtain ⟨hvalue, hrest⟩ := Prod.mk.inj (Option.some.inj h)
    have hdigits : (cs.takeWhile Char.isDigit).all Char.isDigit = true := by
      rw [List.all_eq_true]
      exact fun c hc => List.mem_takeWhile_imp hc
    refine ⟨cs.takeWhile Char.isDigit, ?_, hdigits, fun rest' hends => ?_⟩
    · rw [← hrest, List.takeWhile_append_dropWhile]
    · have hstop : rest'.takeWhile Char.isDigit = [] ∧ rest'.dropWhile Char.isDigit = rest' := by
        cases rest' with
        | nil => exact ⟨rfl, rfl⟩
        | cons c cs =>
            have hc : c.isDigit = false := by
              cases hdigit : c.isDigit with
              | false => rfl
              | true => exact absurd rfl (hends.ne_cons (isTimeChar_of_isDigit hdigit) cs)
            exact ⟨List.takeWhile_cons_of_neg (by rw [hc]; decide),
              List.dropWhile_cons_of_neg (by rw [hc]; decide)⟩
      rw [List.all_eq_true] at hdigits
      unfold readFraction
      dsimp only
      rw [List.takeWhile_append_of_pos hdigits, List.dropWhile_append_of_pos hdigits, hstop.1,
        hstop.2, List.append_nil, if_neg hnonempty, hvalue]

/-- What a reader of times took, and that it takes the same before any other end. -/
def Consumed {α : Type} (read : List Char → Option (α × List Char)) (cs : List Char) (value : α)
    (rest : List Char) : Prop :=
  ∃ pre : List Char, cs = pre ++ rest ∧ (∀ c ∈ pre, isTimeChar c = true) ∧
    ∀ rest', EndsTime rest' → read (pre ++ rest') = some (value, rest')

theorem forall_isTimeChar {pre : List Char} (h : pre.all Char.isDigit = true) :
    ∀ c ∈ pre, isTimeChar c = true :=
  fun c hc => isTimeChar_of_isDigit (List.all_eq_true.1 h c hc)

theorem readSeconds_eq_some {minutes : Nat} {fields : Nat × Nat × Nat} {cs rest : List Char}
    (h : readSeconds minutes cs = some (fields, rest)) (hends : EndsTime rest) :
    Consumed (readSeconds minutes) cs fields rest := by
  unfold readSeconds at h
  obtain ⟨⟨second, tail⟩, hsecond, hvalue⟩ := Option.bind_eq_some_iff.1 h
  clear h
  obtain ⟨pre, rfl, -, hdigits, hread⟩ := readDigits_eq_some hsecond
  have hpre := forall_isTimeChar hdigits
  have hfraction : ∀ point fraction, tail = point :: fraction → (point = '.' ∨ point = ',') →
      ((readFraction fraction).bind fun read => some ((minutes, second, read.1), read.2))
        = some (fields, rest) →
      Consumed (readSeconds minutes) (pre ++ tail) fields rest := by
    rintro point fraction rfl hpoint hvalue
    obtain ⟨⟨micros, rest⟩, hmicros, hvalue⟩ := Option.bind_eq_some_iff.1 hvalue
    obtain ⟨rfl, rfl⟩ := Prod.mk.inj (Option.some.inj hvalue)
    obtain ⟨digits, rfl, hall, hrest⟩ := readFraction_eq_some hmicros
    refine ⟨pre ++ point :: digits, by simp, ?_, fun rest' hends' => ?_⟩
    · intro c hc
      rcases List.mem_append.1 hc with hc | hc
      · exact hpre c hc
      · rcases List.mem_cons.1 hc with rfl | hc
        · rcases hpoint with rfl | rfl <;> rfl
        · exact forall_isTimeChar hall c hc
    · unfold readSeconds
      rw [List.append_assoc, hread]
      rcases hpoint with rfl | rfl <;> simp [hrest rest' hends']
  dsimp only at hvalue
  split at hvalue
  case h_1 fraction => exact hfraction '.' fraction rfl (.inl rfl) hvalue
  case h_2 fraction => exact hfraction ',' fraction rfl (.inr rfl) hvalue
  case h_3 hdot hcomma =>
    obtain ⟨rfl, rfl⟩ := Prod.mk.inj (Option.some.inj hvalue)
    refine ⟨pre, rfl, hpre, fun rest' hends' => ?_⟩
    unfold readSeconds
    rw [hread]
    dsimp only [bind, Option.bind]
    split
    case h_1 => exact absurd rfl (hends'.ne_cons rfl _)
    case h_2 => exact absurd rfl (hends'.ne_cons rfl _)
    case h_3 => rfl

theorem readSeconds_endsTime (minutes : Nat) {cs : List Char} (h : EndsTime cs) :
    readSeconds minutes cs = none := by
  unfold readSeconds
  rw [readDigits_endsTime (by decide) h]
  rfl

/-- **A time of day is read the same before any end of it.** -/
theorem readTime_eq_some {time : Nat × Nat × Nat × Nat} {cs rest : List Char}
    (h : readTime cs = some (time, rest)) (hends : EndsTime rest) :
    Consumed readTime cs time rest := by
  unfold readTime at h
  obtain ⟨⟨hour, tail⟩, hhour, hvalue⟩ := Option.bind_eq_some_iff.1 h
  clear h
  obtain ⟨pre, rfl, -, hdigits, hread⟩ := readDigits_eq_some hhour
  have hpre := forall_isTimeChar hdigits
  dsimp only at hvalue
  split at hvalue
  case h_1 minutes =>
    obtain ⟨⟨minute, tail⟩, hminute, hrest⟩ := Option.bind_eq_some_iff.1 hvalue
    clear hvalue
    obtain ⟨pre', rfl, -, hdigits', hread'⟩ := readDigits_eq_some hminute
    have hpre' := forall_isTimeChar hdigits'
    dsimp only at hrest
    split at hrest
    case h_1 seconds =>
      obtain ⟨⟨fields, tail⟩, hseconds, hrest⟩ := Option.bind_eq_some_iff.1 hrest
      obtain ⟨rfl, rfl⟩ := Prod.mk.inj (Option.some.inj hrest)
      obtain ⟨pre'', rfl, hpre'', hread''⟩ := readSeconds_eq_some hseconds hends
      refine ⟨pre ++ ':' :: (pre' ++ ':' :: pre''), by simp, ?_, fun rest' hends' => ?_⟩
      · intro c hc
        simp only [List.mem_append, List.mem_cons] at hc
        rcases hc with hc | rfl | hc | rfl | hc
        · exact hpre c hc
        · rfl
        · exact hpre' c hc
        · rfl
        · exact hpre'' c hc
      · unfold readTime
        rw [List.append_assoc, hread]
        simp [hread', hread'' rest' hends']
    case h_2 hcolon =>
      obtain ⟨rfl, rfl⟩ := Prod.mk.inj (Option.some.inj hrest)
      refine ⟨pre ++ ':' :: pre', by simp, ?_, fun rest' hends' => ?_⟩
      · intro c hc
        simp only [List.mem_append, List.mem_cons] at hc
        rcases hc with hc | rfl | hc
        · exact hpre c hc
        · rfl
        · exact hpre' c hc
      · unfold readTime
        rw [List.append_assoc, hread]
        simp only [List.cons_append, bind, Option.bind, hread']
        split
        case h_1 => exact absurd rfl (hends'.ne_cons rfl _)
        case h_2 => rfl
  case h_2 hcolon =>
    cases hminute : readDigits 2 tail with
    | none =>
        rw [hminute] at hvalue
        obtain ⟨rfl, rfl⟩ := Prod.mk.inj (Option.some.inj hvalue)
        refine ⟨pre, rfl, hpre, fun rest' hends' => ?_⟩
        unfold readTime
        rw [hread]
        simp only [bind, Option.bind, readDigits_endsTime (show 0 < 2 by decide) hends']
        split
        case h_1 => exact absurd rfl (hends'.ne_cons rfl _)
        case h_2 => rfl
    | some read =>
        obtain ⟨minute, tail⟩ := read
        obtain ⟨pre', rfl, hlength, hdigits', hread'⟩ := readDigits_eq_some hminute
        have hpre' := forall_isTimeChar hdigits'
        -- the minutes start with a digit, whatever follows them
        have hcompact : ∀ rest' minutes, pre' ++ rest' ≠ ':' :: minutes := by
          intro rest' minutes heq
          cases pre' with
          | nil => cases hlength
          | cons c pre' =>
              rw [List.all_cons, Bool.and_eq_true] at hdigits'
              obtain ⟨rfl, -⟩ := List.cons.inj heq
              exact absurd hdigits'.1 (by decide)
        rw [hminute] at hvalue
        dsimp only at hvalue
        cases hseconds : readSeconds minute tail with
        | none =>
            rw [hseconds] at hvalue
            obtain ⟨rfl, rfl⟩ := Prod.mk.inj (Option.some.inj hvalue)
            refine ⟨pre ++ pre', by simp, ?_, fun rest' hends' => ?_⟩
            · intro c hc
              rcases List.mem_append.1 hc with hc | hc
              · exact hpre c hc
              · exact hpre' c hc
            · unfold readTime
              rw [List.append_assoc, hread]
              simp only [bind, Option.bind]
              split
              case h_1 minutes heq => exact absurd heq (hcompact _ _)
              case h_2 => simp only [hread', readSeconds_endsTime minute hends']; rfl
        | some read =>
            obtain ⟨fields, tail⟩ := read
            rw [hseconds] at hvalue
            obtain ⟨rfl, rfl⟩ := Prod.mk.inj (Option.some.inj hvalue)
            obtain ⟨pre'', rfl, hpre'', hread''⟩ := readSeconds_eq_some hseconds hends
            refine ⟨pre ++ (pre' ++ pre''), by simp, ?_, fun rest' hends' => ?_⟩
            · intro c hc
              simp only [List.mem_append] at hc
              rcases hc with hc | hc | hc
              · exact hpre c hc
              · exact hpre' c hc
              · exact hpre'' c hc
            · unfold readTime
              rw [List.append_assoc, hread]
              simp only [bind, Option.bind]
              split
              case h_1 minutes heq =>
                rw [List.append_assoc] at heq
                exact absurd heq (hcompact _ _)
              case h_2 =>
                rw [List.append_assoc]
                simp only [hread', hread'' rest' hends']
                rfl

/-! ### `Z` and `+00:00` -/

/-- `replaceZulu` on the characters of a text. -/
theorem replaceZulu_toList (text : String) : (replaceZulu text).toList =
    text.toList.flatMap fun c => if c = 'Z' then "+00:00".toList else [c] :=
  String.toList_ofList

theorem flatMap_zulu_self {cs : List Char} (h : ∀ c ∈ cs, c ≠ 'Z') :
    (cs.flatMap fun c => if c = 'Z' then "+00:00".toList else [c]) = cs := by
  induction cs with
  | nil => rfl
  | cons c cs ih =>
      rw [List.flatMap_cons, if_neg (h c List.mem_cons_self),
        ih fun d hd => h d (List.mem_cons_of_mem _ hd)]
      rfl

theorem ne_zulu_of_isTimeChar {c : Char} (h : isTimeChar c = true) : c ≠ 'Z' := by
  rintro rfl
  exact absurd h (by decide)

/-- A time with an offset denotes the same with `+00:00` for `Z`. -/
theorem readClock_zulu {date : PyDate} {cs : List Char} {parsed : PyDatetime}
    (h : readClock date cs = some parsed) (hoffset : parsed.offset.isSome = true) :
    readClock date (cs.flatMap fun c => if c = 'Z' then "+00:00".toList else [c])
      = some parsed := by
  unfold readClock at h
  obtain ⟨⟨time, tail⟩, htime, hvalue⟩ := Option.bind_eq_some_iff.1 h
  dsimp only at hvalue
  split at hvalue
  case isFalse => cases hvalue
  case isTrue hday =>
    obtain ⟨offset, htail, hparsed⟩ := Option.bind_eq_some_iff.1 hvalue
    have hsigned : ∀ sign rest, tail = sign :: rest → (sign = '+' ∨ sign = '-') →
        (∃ offset, readTime rest = some (offset, [])) →
        (cs.flatMap fun c => if c = 'Z' then "+00:00".toList else [c]) = cs := by
      rintro sign rest rfl hsign ⟨offset, hrest⟩
      have hends : EndsTime (sign :: rest) := by
        rintro c hc
        obtain rfl := Option.some.inj hc
        rcases hsign with rfl | rfl <;> rfl
      obtain ⟨pre, rfl, hpre, -⟩ := readTime_eq_some htime hends
      obtain ⟨pre', rfl, hpre', -⟩ := readTime_eq_some hrest fun c hc => by cases hc
      refine flatMap_zulu_self fun c hc => ?_
      simp only [List.append_nil, List.mem_append, List.mem_cons] at hc
      rcases hc with hc | rfl | hc
      · exact ne_zulu_of_isTimeChar (hpre c hc)
      · rcases hsign with rfl | rfl <;> decide
      · exact ne_zulu_of_isTimeChar (hpre' c hc)
    unfold readOffset at htail
    split at htail
    case h_1 =>
      obtain rfl := Option.some.inj htail
      unfold mkDatetime at hparsed
      split at hparsed
      · obtain rfl := Option.some.inj hparsed
        cases hoffset
      · cases hparsed
    case h_2 =>
      obtain rfl := Option.some.inj htail
      have hends : EndsTime ['Z'] := by
        rintro c hc
        obtain rfl := Option.some.inj hc
        rfl
      obtain ⟨pre, rfl, hpre, hread⟩ := readTime_eq_some htime hends
      have hplus : "+00:00".toList = ['+', '0', '0', ':', '0', '0'] := rfl
      have hzulu : EndsTime ['+', '0', '0', ':', '0', '0'] := by
        rintro c hc
        obtain rfl := Option.some.inj hc
        rfl
      have hreplaced : ((['Z'] : List Char).flatMap fun c =>
          if c = 'Z' then "+00:00".toList else [c]) = ['+', '0', '0', ':', '0', '0'] := by
        rw [List.flatMap_cons, if_pos rfl, List.flatMap_nil, List.append_nil, hplus]
      have hutc : readOffset ['+', '0', '0', ':', '0', '0'] = some (some 0) := by decide +kernel
      rw [List.flatMap_append, flatMap_zulu_self fun c hc => ne_zulu_of_isTimeChar (hpre c hc),
        hreplaced]
      unfold readClock
      rw [hread _ hzulu]
      rw [Option.bind_eq_bind, Option.bind_some]
      dsimp only
      rw [if_pos hday, hutc, Option.bind_eq_bind, Option.bind_some]
      exact hparsed
    case h_3 rest =>
      rw [hsigned '+' rest rfl (.inl rfl) (by
        split at htail
        case h_1 offset hrest => exact ⟨offset, hrest⟩
        case h_2 => cases htail)]
      exact h
    case h_4 rest =>
      rw [hsigned '-' rest rfl (.inr rfl) (by
        split at htail
        case h_1 offset hrest => exact ⟨offset, hrest⟩
        case h_2 => cases htail)]
      exact h
    case h_5 => cases htail

/-- A datetime text is a date text, `T` and what follows. -/
theorem isDatetimeText_eq {cs : List Char} (h : isDatetimeText cs = true) :
    ∃ y₁ y₂ y₃ y₄ m₁ m₂ d₁ d₂ rest,
      cs = y₁ :: y₂ :: y₃ :: y₄ :: '-' :: m₁ :: m₂ :: '-' :: d₁ :: d₂ :: 'T' :: rest ∧
      [y₁, y₂, y₃, y₄, m₁, m₂, d₁, d₂].all Char.isDigit = true := by
  unfold isDatetimeText at h
  simp only [Bool.and_eq_true] at h
  obtain ⟨⟨⟨hdate, hmark⟩, -⟩, -⟩ := h
  obtain ⟨y₁, y₂, y₃, y₄, m₁, m₂, d₁, d₂, hten, hdigits⟩ := isDateText_eq hdate
  have hsplit := List.take_append_drop 10 cs
  cases hrest : cs.drop 10 with
  | nil =>
      rw [hrest] at hmark
      cases hmark
  | cons mark rest =>
      rw [hrest] at hmark
      obtain rfl : mark = 'T' := by simpa using hmark
      rw [hten, hrest] at hsplit
      exact ⟨y₁, y₂, y₃, y₄, m₁, m₂, d₁, d₂, rest, hsplit.symm, hdigits⟩

/-- **An accepted datetime denotes the same with `+00:00` for `Z`.** -/
theorem datetimeFromIsoformat_replaceZulu {text : String} {parsed : PyDatetime}
    (htext : isDatetimeText text.toList = true)
    (h : datetimeFromIsoformat text = some parsed) (hoffset : parsed.offset.isSome = true) :
    datetimeFromIsoformat (replaceZulu text) = some parsed := by
  obtain ⟨y₁, y₂, y₃, y₄, m₁, m₂, d₁, d₂, rest, hsplit, hdigits⟩ := isDatetimeText_eq htext
  have hkept : ∀ c ∈ [y₁, y₂, y₃, y₄, '-', m₁, m₂, '-', d₁, d₂, 'T'], c ≠ 'Z' := by
    rintro c hc rfl
    simp only [List.all_cons, List.all_nil, Bool.and_true, Bool.and_eq_true] at hdigits
    simp only [List.mem_cons, List.not_mem_nil, or_false] at hc
    rcases hc with rfl | rfl | rfl | rfl | hc | rfl | rfl | hc | rfl | rfl | hc
    all_goals first
      | exact absurd hc (by decide)
      | simp [show Char.isDigit 'Z' = false from rfl] at hdigits
  have hzulu : (replaceZulu text).toList = y₁ :: y₂ :: y₃ :: y₄ :: '-' :: m₁ :: m₂ :: '-' ::
      d₁ :: d₂ :: 'T' :: (rest.flatMap fun c => if c = 'Z' then "+00:00".toList else [c]) := by
    have happ : text.toList = [y₁, y₂, y₃, y₄, '-', m₁, m₂, '-', d₁, d₂, 'T'] ++ rest := hsplit
    rw [replaceZulu_toList, happ, List.flatMap_append, flatMap_zulu_self hkept]
    rfl
  unfold datetimeFromIsoformat at h ⊢
  rw [hsplit, readIsoDate_dashed hdigits] at h
  rw [hzulu, readIsoDate_dashed hdigits]
  cases hread : mkDate (digitsValue 0 [y₁, y₂, y₃, y₄]) (digitsValue 0 [m₁, m₂])
      (digitsValue 0 [d₁, d₂]) with
  | none =>
      rw [hread] at h
      cases h
  | some date =>
      rw [hread] at h
      exact readClock_zulu h hoffset

/-- A datetime text is no date. -/
theorem dateFromIsoformat_datetime {text : String} (htext : isDatetimeText text.toList = true) :
    dateFromIsoformat text = none := by
  obtain ⟨y₁, y₂, y₃, y₄, m₁, m₂, d₁, d₂, rest, hsplit, hdigits⟩ := isDatetimeText_eq htext
  unfold dateFromIsoformat
  rw [hsplit, readIsoDate_dashed hdigits]
  cases mkDate (digitsValue 0 [y₁, y₂, y₃, y₄]) (digitsValue 0 [m₁, m₂])
    (digitsValue 0 [d₁, d₂]) <;> rfl

/-- **A value a temporal type accepts has the kind of the type.** -/
theorem inferValueKind_accepts {kind : AtomicKind} (hkind : kind = .date ∨ kind = .datetime)
    {text : String} (h : kind.accepts (.str text) = true) :
    inferValueKind (.str text) = kind.kind := by
  unfold inferValueKind
  rcases hkind with rfl | rfl
  · have hdate : isDateText text.toList = true ∧ (dateFromIsoformat text).isSome = true := by
      simpa [AtomicKind.accepts] using h
    dsimp only
    rw [if_pos hdate.2]
    rfl
  · have hdatetime : isDatetimeText text.toList = true ∧
        ((datetimeFromIsoformat text).any fun parsed => parsed.offset.isSome) = true := by
      simpa [AtomicKind.accepts] using h
    obtain ⟨htext, hany⟩ := hdatetime
    cases hparsed : datetimeFromIsoformat text with
    | none =>
        rw [hparsed] at hany
        cases hany
    | some parsed =>
        rw [hparsed] at hany
        dsimp only
        rw [if_neg (by rw [dateFromIsoformat_datetime htext]; decide),
          if_pos (by rw [datetimeFromIsoformat_replaceZulu htext hparsed hany]; rfl)]
        rfl

end HomeCortex
