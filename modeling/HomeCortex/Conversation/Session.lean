/-
# Session tokens

`conversation/session.py`: the cookie of the household GUI.  A token is four fields
joined by dots: the kind of identity, its value in unpadded base64, the expiry and a
signature over `gui:kind:value:expiry`.  It is read back by splitting at the first
three dots, a lenient base64 decoder and `int`, and accepted only when it is the token
that these would be given.

`hmac` is a parameter of the model, as are the characters outside ASCII that `int`
takes for digits or spaces.
-/

import HomeCortex.Library.Base64
import HomeCortex.Library.JsonText

namespace HomeCortex

open JsonText (integerText)

/-! ### `int` of a text -/

/-- What `int` asks of the Unicode database about a character outside ASCII. -/
structure UnicodeData where
  space : Char → Bool
  decimal : Char → Option (Fin 10)

/-- The ASCII character that `int` reads. -/
def UnicodeData.toAscii (data : UnicodeData) (c : Char) : Char :=
  if c.toNat < 127 then c
  else if data.space c then ' '
  else match data.decimal c with
    | some digit => Char.ofNat (48 + digit)
    | none => '?'

/-- White space around a number. -/
def isAsciiSpace (c : Char) : Bool := c = ' ' || (9 ≤ c.toNat && c.toNat ≤ 13)

/-- The sign of a number and what follows it. -/
def signedText : List Char → Int × List Char
  | '-' :: cs => (-1, cs)
  | '+' :: cs => (1, cs)
  | cs => (1, cs)

/-- Every underscore stands between two digits. -/
def Underscored (body : List Char) : Prop :=
  ('_' :: (body ++ ['_'])).IsChain fun a b => a ≠ '_' ∨ b ≠ '_'

instance (body : List Char) : Decidable (Underscored body) :=
  inferInstanceAs (Decidable (List.IsChain _ _))

/-- `int(text)`: digits with single underscores between them, after a sign and within
white space; at most 4300 of them. -/
def intOfText (data : UnicodeData) (text : String) : Option Int :=
  let (sign, cs) := signedText ((text.toList.map data.toAscii).dropWhile isAsciiSpace)
  let body := cs.takeWhile fun c => c.isDigit || c == '_'
  let digits := body.filter Char.isDigit
  if (cs.drop body.length).all isAsciiSpace ∧ Underscored body ∧ digits.length ≤ 4300 then
    some (sign * Nat.ofDigitChars 10 digits 0)
  else none

/-! ### Tokens -/

/-- `int(time.time())`: the whole seconds of a finite binary64. -/
structure Seconds where
  value : Int
  finite : value.natAbs < 2 ^ 1024

/-- `SESSION_SECONDS`. -/
def sessionSeconds : Int := 12 * 60 * 60

/-- `IdentityKind`. -/
inductive IdentityKind where
  | email
  | id
  | none
deriving DecidableEq, Repr

/-- The text of a kind. -/
def IdentityKind.text : IdentityKind → String
  | .email => "email"
  | .id => "id"
  | .none => "none"

/-- `kind in {"email", "id", "none"}`. -/
def identityKind? (text : List Char) : Option IdentityKind :=
  [IdentityKind.email, .id, .none].find? fun kind => kind.text.toList == text

/-- `hmac.new(key, payload, sha256).digest()`. -/
abbrev Mac := ByteArray → ByteArray → List UInt8

/-- `hexdigest` of a digest. -/
def hexdigest (digest : List UInt8) : List Char :=
  digest.flatMap fun byte => [Nat.digitChar (byte.toNat / 16), Nat.digitChar (byte.toNat % 16)]

/-- `_b64`. -/
def b64 (value : String) : List Char :=
  ((Base64.encode value.toUTF8.data.toList).reverse.dropWhile (· == '=')).reverse

/-- `_unb64`; `none` for a `ValueError`. -/
def unb64 (value : List Char) : Option String := do
  let padded := value ++ List.replicate (Base64.padding value.length) '='
  if padded.all fun c => c.toNat < 128 then
    String.fromUTF8? ⟨(← Base64.decode padded).toArray⟩
  else none

/-- The payload of a session. -/
def sessionPayload (kind : IdentityKind) (value : String) (expiry : Int) : String :=
  "gui:" ++ kind.text ++ ":" ++ value ++ ":" ++ toString expiry

/-- `session_token`, at the time `now`. -/
def sessionToken (mac : Mac) (now : Seconds) (key : String) (kind : IdentityKind)
    (value : String) (expires : Option Int) : String :=
  let expiry := expires.getD (now.value + sessionSeconds)
  let signature := hexdigest (mac key.toUTF8 (sessionPayload kind value expiry).toUTF8)
  String.ofList (kind.text.toList ++ '.' :: (b64 value ++ '.' ::
    ((toString expiry).toList ++ '.' :: signature)))

/-- A field of `token.split(".", 3)` and what follows its dot. -/
def splitField (cs : List Char) : Option (List Char × List Char) :=
  match cs.dropWhile (· != '.') with
  | _ :: rest => some (cs.takeWhile (· != '.'), rest)
  | [] => none

/-- `hmac.compare_digest` of texts; a `TypeError` unless both are ASCII. -/
def compareDigest (a b : String) : Option Bool :=
  if (a.toList ++ b.toList).all fun c => c.toNat < 128 then some (a == b) else none

/-- `parse_session`; the clock is read at `started` and at `finished`. -/
def parseSession (mac : Mac) (data : UnicodeData) (started finished : Seconds)
    (token key : String) : Option (IdentityKind × String) := do
  let (kind_text, rest) ← splitField token.toList
  let (encoded, rest) ← splitField rest
  let (expiry_text, _) ← splitField rest
  let kind ← identityKind? kind_text
  let value ← unb64 encoded
  let expiry ← intOfText data (String.ofList expiry_text)
  if started.value < expiry ∧ expiry ≤ finished.value + sessionSeconds then
    let expected := sessionToken mac finished key kind value (some expiry)
    if ← compareDigest token expected then some (kind, value) else none
  else none

/-! ### Decimal texts -/

theorem toString_toList (n : Int) : (toString n).toList = integerText n := by
  cases n with
  | ofNat n => exact Nat.toString_eq_ofList_toDigits ▸ String.toList_ofList
  | negSucc n =>
      change ("-" ++ Nat.repr (n + 1)).toList = _
      rw [String.toList_append, Nat.repr_eq_ofList_toDigits, String.toList_ofList,
        String.toList_ofList]
      rfl

theorem integerText_injective {m n : Int} (h : integerText m = integerText n) : m = n := by
  have hread : ∀ n : Int, JsonText.readInteger (integerText n) = some (n, []) := by
    intro n
    have hread := JsonText.integers.read_text n [] (fun _ hc => nomatch hc)
    rwa [List.append_nil] at hread
  have hm := hread m
  rw [h, hread n] at hm
  exact (congrArg Prod.fst (Option.some.inj hm)).symm

theorem mem_integerText {n : Int} {c : Char} (h : c ∈ integerText n) :
    c = '-' ∨ c.isDigit = true := by
  cases n with
  | ofNat n => exact .inr (Nat.isDigit_of_mem_toDigits (by decide) (by decide) h)
  | negSucc n =>
      rcases List.mem_cons.1 h with rfl | h
      · exact .inl rfl
      · exact .inr (Nat.isDigit_of_mem_toDigits (by decide) (by decide) h)

theorem underscored_digits {cs : List Char} (hne : cs ≠ []) (h : ∀ c ∈ cs, c.isDigit = true) :
    Underscored cs := by
  have hdigit : ∀ c : Char, c.isDigit = true → c ≠ '_' := by
    rintro c hc rfl
    exact absurd hc (by decide)
  have hchain : ∀ (cs : List Char) (a : Char), (cs = [] → a ≠ '_') → (∀ c ∈ cs, c.isDigit = true) →
      (a :: (cs ++ ['_'])).IsChain fun a b => a ≠ '_' ∨ b ≠ '_' := by
    intro cs
    induction cs with
    | nil => exact fun a ha _ => by simpa using ha
    | cons c cs ih =>
        intro a _ hcs
        have hc := hdigit c (hcs c List.mem_cons_self)
        rw [List.cons_append, List.isChain_cons_cons]
        exact ⟨.inr hc, ih c (fun _ => hc) fun d hd => hcs d (List.mem_cons_of_mem _ hd)⟩
  exact hchain cs '_' (fun hnil => absurd hnil hne) h

/-- Digits after a sign are read as their number. -/
theorem intOfText_digits (data : UnicodeData) {n : Nat}
    (hlength : (Nat.toDigits 10 n).length ≤ 4300) (sign : Int)
    {cs : List Char} (hcs : signedText cs = (sign, Nat.toDigits 10 n))
    (hascii : ∀ c ∈ cs, data.toAscii c = c ∧ isAsciiSpace c = false) :
    intOfText data (String.ofList cs) = some (sign * n) := by
  have hdigits : ∀ c ∈ Nat.toDigits 10 n, c.isDigit = true := fun c hc =>
    Nat.isDigit_of_mem_toDigits (by decide) (by decide) hc
  have hmap : cs.map data.toAscii = cs := by
    conv_rhs => rw [← List.map_id cs]
    exact List.map_congr_left fun c hc => (hascii c hc).1
  have hdrop : cs.dropWhile isAsciiSpace = cs := by
    cases cs with
    | nil => rfl
    | cons c cs => exact List.dropWhile_cons_of_neg (by simp [(hascii c List.mem_cons_self).2])
  have hbody : (Nat.toDigits 10 n).takeWhile (fun c => c.isDigit || c == '_')
      = Nat.toDigits 10 n :=
    List.takeWhile_eq_self_iff.2 fun c hc => by simp [hdigits c hc]
  have hfilter : (Nat.toDigits 10 n).filter Char.isDigit = Nat.toDigits 10 n :=
    List.filter_eq_self.2 hdigits
  unfold intOfText
  rw [String.toList_ofList, hmap, hdrop, hcs]
  dsimp only
  rw [hbody, hfilter, Nat.ofDigitChars_ten_toDigits, if_pos]
  refine ⟨?_, underscored_digits Nat.toDigits_ne_nil hdigits, hlength⟩
  rw [List.drop_length]
  rfl

/-- **`int` reads what `str` writes**, as long as it reads that many digits. -/
theorem intOfText_integerText (data : UnicodeData) {n : Int}
    (hlength : (Nat.toDigits 10 n.natAbs).length ≤ 4300) :
    intOfText data (String.ofList (integerText n)) = some n := by
  have hascii : ∀ c ∈ integerText n, data.toAscii c = c ∧ isAsciiSpace c = false := by
    intro c hc
    have hrange : 45 ≤ c.toNat ∧ c.toNat ≤ 57 := by
      rcases mem_integerText hc with rfl | hdigit
      · decide
      · unfold Char.isDigit at hdigit
        rw [Bool.and_eq_true, decide_eq_true_eq, decide_eq_true_eq] at hdigit
        exact ⟨le_trans (by decide) hdigit.1, hdigit.2⟩
    constructor
    · rw [UnicodeData.toAscii, if_pos (by omega)]
    · rw [isAsciiSpace, Bool.or_eq_false_iff]
      refine ⟨decide_eq_false ?_, by simp; omega⟩
      rintro rfl
      exact absurd hrange.1 (by decide)
  cases n with
  | ofNat n =>
      have hcs : signedText (integerText (Int.ofNat n)) = (1, Nat.toDigits 10 n) := by
        obtain ⟨c, cs, hcons, hc⟩ := JsonText.toDigits_cons n
        change signedText (Nat.toDigits 10 n) = _
        rw [hcons]
        unfold signedText
        split
        case h_1 heq =>
          rw [(List.cons.inj heq).1] at hc
          exact absurd hc (by decide)
        case h_2 heq =>
          rw [(List.cons.inj heq).1] at hc
          exact absurd hc (by decide)
        case h_3 => rfl
      rw [intOfText_digits data hlength 1 hcs hascii, one_mul]
      rfl
  | negSucc n =>
      have hcs : signedText (integerText (Int.negSucc n)) = (-1, Nat.toDigits 10 (n + 1)) := rfl
      rw [intOfText_digits data hlength (-1) hcs hascii]
      congr 1
      omega

/-! ### Fields -/

/-- The text before the first separator, and from it on. -/
theorem cut_separator {sep : Char} {cs : List Char} (h : sep ∉ cs) (ds : List Char) :
    (cs ++ sep :: ds).takeWhile (· != sep) = cs ∧
      (cs ++ sep :: ds).dropWhile (· != sep) = sep :: ds := by
  have hcs : ∀ c ∈ cs, (c != sep) = true := by
    intro c hc
    rw [bne_iff_ne]
    rintro rfl
    exact h hc
  rw [List.takeWhile_append_of_pos hcs, List.dropWhile_append_of_pos hcs,
    List.takeWhile_cons_of_neg (by simp), List.dropWhile_cons_of_neg (by simp), List.append_nil]
  exact ⟨rfl, rfl⟩

theorem splitField_append {cs : List Char} (h : '.' ∉ cs) (ds : List Char) :
    splitField (cs ++ '.' :: ds) = some (cs, ds) := by
  obtain ⟨htake, hdrop⟩ := cut_separator h ds
  unfold splitField
  rw [hdrop, htake]

/-- Two texts cut at their first separator. -/
theorem separator_inj {sep : Char} {cs cs' ds ds' : List Char} (h : sep ∉ cs) (h' : sep ∉ cs')
    (heq : cs ++ sep :: ds = cs' ++ sep :: ds') : cs = cs' ∧ ds = ds' := by
  have htake := (cut_separator h ds).1
  have hdrop := (cut_separator h ds).2
  rw [heq] at htake hdrop
  rw [(cut_separator h' ds').1] at htake
  rw [(cut_separator h' ds').2] at hdrop
  exact ⟨htake.symm, (List.cons.inj hdrop).2.symm⟩

theorem identityKind?_text (kind : IdentityKind) :
    identityKind? kind.text.toList = some kind := by
  cases kind <;> rfl

theorem not_mem_kindText (kind : IdentityKind) :
    ':' ∉ kind.text.toList ∧ '.' ∉ kind.text.toList ∧ ∀ c ∈ kind.text.toList, c.toNat < 128 := by
  have hletters : ∀ c ∈ kind.text.toList, c.isAlpha = true ∧ c.toNat < 128 := by
    intro c hc
    cases kind
    case email =>
      change c ∈ ['e', 'm', 'a', 'i', 'l'] at hc
      simp only [List.mem_cons, List.not_mem_nil, or_false] at hc
      rcases hc with rfl | rfl | rfl | rfl | rfl <;> decide
    case id =>
      change c ∈ ['i', 'd'] at hc
      simp only [List.mem_cons, List.not_mem_nil, or_false] at hc
      rcases hc with rfl | rfl <;> decide
    case none =>
      change c ∈ ['n', 'o', 'n', 'e'] at hc
      simp only [List.mem_cons, List.not_mem_nil, or_false] at hc
      rcases hc with rfl | rfl | rfl | rfl <;> decide
  exact ⟨fun h => absurd (hletters _ h).1 (by decide), fun h => absurd (hletters _ h).1 (by decide),
    fun c h => (hletters c h).2⟩

theorem not_mem_integerText (n : Int) :
    ':' ∉ integerText n ∧ '.' ∉ integerText n ∧ ∀ c ∈ integerText n, c.toNat < 128 := by
  refine ⟨fun h => ?_, fun h => ?_, fun c h => ?_⟩
  · rcases mem_integerText h with h | h <;> exact absurd h (by decide)
  · rcases mem_integerText h with h | h <;> exact absurd h (by decide)
  · rcases mem_integerText h with rfl | hdigit
    · decide
    · unfold Char.isDigit at hdigit
      rw [Bool.and_eq_true, decide_eq_true_eq, decide_eq_true_eq] at hdigit
      exact lt_of_le_of_lt hdigit.2 (by decide)

/-! ### Values -/

theorem b64_eq (value : String) : b64 value = Base64.letters value.toUTF8.data.toList :=
  Base64.dropPadding _

/-- **A value is read back from its base64.** -/
theorem unb64_b64 (value : String) : unb64 (b64 value) = some value := by
  have hascii : ∀ c ∈ Base64.encode value.toUTF8.data.toList, c.toNat < 128 := by
    intro c hc
    rcases List.mem_append.1 hc with hc | hc
    · exact (Base64.mem_letters hc).2.2
    · rw [List.eq_of_mem_replicate hc]
      decide
  unfold unb64
  rw [b64_eq]
  change (if (Base64.encode value.toUTF8.data.toList).all _ = true then
    (Base64.decode (Base64.encode value.toUTF8.data.toList)).bind _ else _) = _
  rw [if_pos (List.all_eq_true.2 fun c hc => decide_eq_true (hascii c hc)), Base64.decode_encode]
  change String.fromUTF8? value.toByteArray = _
  unfold String.fromUTF8?
  rw [dif_pos value.isValidUTF8]
  rfl

/-! ### Payloads -/

theorem sessionPayload_toList (kind : IdentityKind) (value : String) (expiry : Int) :
    (sessionPayload kind value expiry).toList =
      "gui:".toList ++ (kind.text.toList ++ ':' :: (value.toList ++ ':' :: integerText expiry)) := by
  unfold sessionPayload
  simp only [String.toList_append, toString_toList, List.append_assoc]
  rfl

/-- **A payload says what it was made from**, whatever characters the value has. -/
theorem sessionPayload_injective {kind kind' : IdentityKind} {value value' : String}
    {expiry expiry' : Int}
    (h : sessionPayload kind value expiry = sessionPayload kind' value' expiry') :
    kind = kind' ∧ value = value' ∧ expiry = expiry' := by
  have hlist := congrArg String.toList h
  rw [sessionPayload_toList, sessionPayload_toList, List.append_right_inj] at hlist
  obtain ⟨hkind, hrest⟩ := separator_inj (not_mem_kindText kind).1 (not_mem_kindText kind').1 hlist
  -- the expiry has no colon: it is what follows the last one
  have hreverse := congrArg List.reverse hrest
  rw [List.reverse_append, List.reverse_append, List.reverse_cons, List.reverse_cons,
    List.append_assoc, List.append_assoc, List.singleton_append, List.singleton_append] at hreverse
  obtain ⟨hexpiry, hvalue⟩ := separator_inj
    (fun hmem => (not_mem_integerText expiry).1 (List.mem_reverse.1 hmem))
    (fun hmem => (not_mem_integerText expiry').1 (List.mem_reverse.1 hmem)) hreverse
  refine ⟨?_, String.toList_inj.1 (List.reverse_injective hvalue),
    integerText_injective (List.reverse_injective hexpiry)⟩
  have hsome := identityKind?_text kind
  rw [hkind, identityKind?_text] at hsome
  exact (Option.some.inj hsome).symm

/-! ### Reading a token back -/

theorem hexdigest_ascii {digest : List UInt8} {c : Char} (h : c ∈ hexdigest digest) :
    c.toNat < 128 := by
  have hdigit : ∀ n < 16, (Nat.digitChar n).toNat < 128 := by decide
  obtain ⟨byte, -, hc⟩ := List.mem_flatMap.1 h
  have hbyte := byte.toNat_lt
  rcases List.mem_cons.1 hc with rfl | hc
  · exact hdigit _ (by omega)
  · rw [List.mem_singleton.1 hc]
    exact hdigit _ (by omega)

theorem compareDigest_eq_true {a b : String} (h : compareDigest a b = some true) : a = b := by
  unfold compareDigest at h
  split at h
  · exact beq_iff_eq.1 (Option.some.inj h)
  · cases h

variable {mac : Mac} {data : UnicodeData} {now started finished : Seconds} {key value : String}
  {kind : IdentityKind}

theorem sessionToken_toList (expiry : Int) :
    ∃ signature, (∀ c ∈ signature, c.toNat < 128) ∧
      (sessionToken mac now key kind value (some expiry)).toList = kind.text.toList ++ '.' ::
        (b64 value ++ '.' :: (integerText expiry ++ '.' :: signature)) := by
  refine ⟨hexdigest (mac key.toUTF8 (sessionPayload kind value expiry).toUTF8),
    fun c hc => hexdigest_ascii hc, ?_⟩
  unfold sessionToken
  rw [String.toList_ofList, Option.getD_some, toString_toList]

theorem compareDigest_sessionToken (expiry : Int) :
    compareDigest (sessionToken mac now key kind value (some expiry))
      (sessionToken mac now key kind value (some expiry)) = some true := by
  obtain ⟨signature, hsignature, htoken⟩ := @sessionToken_toList mac now key value kind expiry
  have hascii : ∀ c ∈ (sessionToken mac now key kind value (some expiry)).toList,
      c.toNat < 128 := by
    rw [htoken, b64_eq]
    intro c hc
    simp only [List.mem_append, List.mem_cons] at hc
    rcases hc with hc | rfl | hc | rfl | hc | rfl | hc
    · exact (not_mem_kindText kind).2.2 c hc
    · decide
    · exact (Base64.mem_letters hc).2.2
    · decide
    · exact (not_mem_integerText expiry).2.2 c hc
    · decide
    · exact hsignature c hc
  unfold compareDigest
  rw [if_pos, beq_self_eq_true]
  rw [List.all_eq_true]
  intro c hc
  exact decide_eq_true (hascii c ((List.mem_append.1 hc).elim id id))

theorem natAbs_window {bound : Nat} {start expiry finish : Int} (hbound : 43200 ≤ bound)
    (hstart : start.natAbs < bound) (hfinish : finish.natAbs < bound) (hlow : start < expiry)
    (hhigh : expiry ≤ finish + sessionSeconds) : expiry.natAbs < 2 * bound := by
  unfold sessionSeconds at hhigh
  omega

/-- An expiry in the window has few digits. -/
theorem length_digits_window {expiry : Int} (hstart : started.value < expiry)
    (hend : expiry ≤ finished.value + sessionSeconds) :
    (Nat.toDigits 10 expiry.natAbs).length ≤ 4300 := by
  have hpow : ∀ k, 16 ≤ k → (43200 : Nat) ≤ 2 ^ k := fun k hk =>
    le_trans (by decide) (Nat.pow_le_pow_right Nat.zero_lt_two hk)
  have hseconds := hpow 1024 (by decide)
  have hwindow := natAbs_window hseconds started.finite finished.finite hstart hend
  rw [← pow_succ'] at hwindow
  have hten : ∀ k n, 0 < k → n < 2 ^ k → (Nat.toDigits 10 n).length ≤ k := fun k n hk hn =>
    (Nat.length_toDigits_le_iff (by decide) hk).2
      (lt_of_lt_of_le hn (Nat.pow_le_pow_left (by decide) k))
  exact (hten (1024 + 1) _ (by decide) hwindow).trans (by decide)

/-- **Session tokens are canonical and unambiguous.**  A token is accepted for a kind and a
value exactly when it is the token issued for them with an expiry in the window; and
payloads of different identities or expiries differ, so that whoever holds a signature
holds one for a single identity and expiry, unless the HMAC itself collides. -/
theorem parseSession_iff (mac : Mac) (data : UnicodeData) (started finished : Seconds)
    (key : String) :
    (∀ (token : String) (kind : IdentityKind) (value : String),
      parseSession mac data started finished token key = some (kind, value) ↔
        ∃ expiry, started.value < expiry ∧ expiry ≤ finished.value + sessionSeconds ∧
          token = sessionToken mac finished key kind value (some expiry)) ∧
    ∀ (kind kind' : IdentityKind) (value value' : String) (expiry expiry' : Int),
      sessionPayload kind value expiry = sessionPayload kind' value' expiry' →
        kind = kind' ∧ value = value' ∧ expiry = expiry' := by
  refine ⟨fun token kind value => ⟨fun h => ?_, ?_⟩, fun _ _ _ _ _ _ h =>
    sessionPayload_injective h⟩
  · unfold parseSession at h
    obtain ⟨⟨kind_text, rest⟩, -, h⟩ := Option.bind_eq_some_iff.1 h
    obtain ⟨⟨encoded, rest⟩, -, h⟩ := Option.bind_eq_some_iff.1 h
    obtain ⟨⟨expiry_text, signature⟩, -, h⟩ := Option.bind_eq_some_iff.1 h
    obtain ⟨kind', -, h⟩ := Option.bind_eq_some_iff.1 h
    obtain ⟨value', -, h⟩ := Option.bind_eq_some_iff.1 h
    obtain ⟨expiry, -, h⟩ := Option.bind_eq_some_iff.1 h
    split at h
    case isFalse => cases h
    case isTrue hwindow =>
      obtain ⟨same, hsame, h⟩ := Option.bind_eq_some_iff.1 h
      split at h
      case isFalse => cases h
      case isTrue htrue =>
        subst htrue
        obtain ⟨rfl, rfl⟩ := Prod.mk.inj (Option.some.inj h)
        exact ⟨expiry, hwindow.1, hwindow.2, compareDigest_eq_true hsame⟩
  · rintro ⟨expiry, hstart, hend, rfl⟩
    obtain ⟨signature, -, htoken⟩ := @sessionToken_toList mac finished key value kind expiry
    have hvalue : '.' ∉ b64 value := fun hmem => (Base64.mem_letters (b64_eq value ▸ hmem)).2.1 rfl
    unfold parseSession
    rw [htoken, splitField_append (not_mem_kindText kind).2.1]
    change (splitField (b64 value ++ '.' :: (integerText expiry ++ '.' :: signature))).bind _ = _
    rw [splitField_append hvalue]
    change (splitField (integerText expiry ++ '.' :: signature)).bind _ = _
    rw [splitField_append (not_mem_integerText expiry).2.1]
    change (identityKind? kind.text.toList).bind _ = _
    rw [identityKind?_text]
    change (unb64 (b64 value)).bind _ = _
    rw [unb64_b64]
    change (intOfText data (String.ofList (integerText expiry))).bind _ = _
    rw [intOfText_integerText data (length_digits_window hstart hend), Option.bind_some,
      if_pos ⟨hstart, hend⟩]
    change (compareDigest _ _).bind _ = _
    rw [compareDigest_sessionToken]
    rfl

end HomeCortex
