/-
# The browser's reader of an answer

`home_gui/src/lib/api.ts`.  `streamMessage` posts a message and reads the reply as it
arrives: it decodes the bytes, cuts the text at blank lines, keeps what follows the last
one for the next read, and takes from each part the first `data:` line.  JavaScript
strings are lists of characters here, and `undefined` is `none`.  The timing callback is
left out.
-/

import HomeCortex.Library.JsonText
import HomeCortex.Library.TextDecoding

namespace HomeCortex
namespace Gui

/-- A value that `JSON.parse` gives; the numbers of the protocol are integers. -/
abbrev JsValue := JsonDoc Int

/-- What is thrown: an `ApiError`, or a `TypeError` for a member of `null`. -/
inductive JsError where
  | apiError (status : Nat) (code message : JsValue)
  | typeError

/-- Whether a value counts as true in a condition. -/
def truthy : Option JsValue → Bool
  | none | some .null => false
  | some (.bool b) => b
  | some (.num n) => n ≠ 0
  | some (.str text) => text ≠ ""
  | some (.arr _) | some (.obj _) => true

/-- `value || other`. -/
def orElse (value : Option JsValue) (other : JsValue) : JsValue :=
  match value with
  | some v => if truthy (some v) then v else other
  | none => other

/-- `value?.name`; of a repeated name the last member counts. -/
def member? (value : Option JsValue) (name : String) : Option JsValue :=
  match value with
  | some (.obj fields) => fields.reverse.lookup name
  | _ => none

/-- `value.name`. -/
def member (value : JsValue) (name : String) : Except JsError (Option JsValue) :=
  match value with
  | .null => .error .typeError
  | value => .ok (member? (some value) name)

/-- `value?.[0]`. -/
def first? : Option JsValue → Option JsValue
  | some (.arr (x :: _)) => some x
  | some (.str text) => text.toList.head?.map fun c => .str (String.singleton c)
  | value => member? value "0"

/-- `text.split('\n\n')`. -/
def splitBlank : List Char → List (List Char)
  | [] => [[]]
  | '\n' :: '\n' :: rest => [] :: splitBlank rest
  | c :: rest =>
      match splitBlank rest with
      | [] => [[c]]
      | part :: parts => (c :: part) :: parts

/-- The white space and line terminators that `trim` removes. -/
def isJsSpace (c : Char) : Bool :=
  ['\t', '\n', '\x0b', '\x0c', '\r', ' ', '\u00a0', '\u1680', '\u2028', '\u2029', '\u202f',
    '\u205f', '\u3000', '\uFEFF'].contains c || ('\u2000' ≤ c && c ≤ '\u200a')

/-- `text.trim()`. -/
def trim (text : List Char) : List Char :=
  ((text.dropWhile isJsSpace).reverse.dropWhile isJsSpace).reverse

/-- `'data: '`. -/
def dataPrefix : List Char := ['d', 'a', 't', 'a', ':', ' ']

/-- `'[DONE]'`. -/
def doneData : List Char := ['[', 'D', 'O', 'N', 'E', ']']

/-- What one part of the text leads to. -/
inductive PartResult where
  | next (delta : Option JsValue)
  | returned
  | thrown (error : JsError)

section Reader

variable (parse : List Char → Option JsValue)

/-- What one parsed event leads to. -/
def handleEvent (event : JsValue) : PartResult :=
  match member event "error" with
  | .error error => .thrown error
  | .ok error =>
      if truthy error then
        .thrown (.apiError 502 (orElse (member? error "code") (.str "stream_error"))
          (orElse (member? error "message") (.str "Stream failed")))
      else
        let delta := member? (member? (first? (member? (some event) "choices")) "delta") "content"
        .next (if truthy delta then delta else none)

/-- The body of `for (const part of parts)`. -/
def handlePart (part : List Char) : PartResult :=
  match (part.splitOn '\n').find? fun item => dataPrefix.isPrefixOf item with
  | none => .next none
  | some line =>
      let data := trim (line.drop 6)
      if data = [] then .next none
      else if data = doneData then .returned
      else match parse data with
        | none => .next none
        | some event => handleEvent event

/-- How the generator ends. -/
inductive Outcome where
  | returned
  | thrown (error : JsError)

/-- The parts one after the other: what is yielded, and how it ends if it does. -/
def handleParts : List (List Char) → List JsValue × Option Outcome
  | [] => ([], none)
  | part :: parts =>
      match handlePart parse part with
      | .returned => ([], some .returned)
      | .thrown error => ([], some (.thrown error))
      | .next delta => (delta.toList ++ (handleParts parts).1, (handleParts parts).2)

variable (decoder : TextDecoder)

/-- `while (true)`: each read gives bytes, and the read after the last gives none. -/
def readLoop : decoder.State → List Char → List (List UInt8) → List JsValue × Outcome
  | state, buffer, [] =>
      let handled := handleParts parse (splitBlank (buffer ++ (decoder.decode state [] false).1))
      (handled.1, handled.2.getD .returned)
  | state, buffer, value :: rest =>
      let decoded := decoder.decode state value true
      let parts := splitBlank (buffer ++ decoded.1)
      match handleParts parse parts.dropLast with
      | (deltas, some outcome) => (deltas, outcome)
      | (deltas, none) =>
          let more := readLoop decoded.2 (parts.getLastD []) rest
          (deltas ++ more.1, more.2)

/-- The response to the post: the payload is what `response.json()` gives, if it parses. -/
structure Response where
  ok : Bool
  status : Nat
  statusText : String
  payload : Option JsValue
  body : Option (List (List UInt8))

/-- `payload.error ?? {}`. -/
def errorOf (payload : JsValue) : Except JsError JsValue := do
  match ← member payload "error" with
  | none | some .null => return .obj []
  | some error => return error

/-- `streamMessage` from the response on. -/
def streamMessage (response : Response) : List JsValue × Outcome :=
  if !response.ok then
    match errorOf (response.payload.getD (.obj [])) with
    | .error error => ([], .thrown error)
    | .ok error => ([], .thrown (.apiError response.status
        (orElse (member? (some error) "code") (.str ("http_" ++ toString response.status)))
        (orElse (member? (some error) "message") (.str response.statusText))))
  else match response.body with
    | none => ([], .thrown (.apiError 502 (.str "stream_unavailable")
        (.str "The browser did not expose the reply stream")))
    | some chunks => readLoop parse decoder decoder.start [] chunks

end Reader

/-! ### Reading does not depend on the pieces -/

theorem splitBlank_ne_nil (text : List Char) : splitBlank text ≠ [] := by
  unfold splitBlank
  repeat' split
  all_goals exact List.cons_ne_nil _ _

/-- A character that does not end a blank line belongs to the first part. -/
theorem splitBlank_cons {c : Char} {rest : List Char} (h : ¬ (c = '\n' ∧ rest.head? = some '\n')) :
    ∃ part parts, splitBlank rest = part :: parts ∧
      splitBlank (c :: rest) = (c :: part) :: parts := by
  obtain ⟨part, parts, hrest⟩ := List.exists_cons_of_ne_nil (splitBlank_ne_nil rest)
  refine ⟨part, parts, hrest, ?_⟩
  rw [splitBlank, hrest]
  rintro tail rfl rfl
  exact h ⟨rfl, rfl⟩

/-- A text in one part is that part. -/
theorem eq_of_splitBlank_singleton {text part : List Char} (h : splitBlank text = [part]) :
    text = part := by
  induction text generalizing part with
  | nil => simpa [splitBlank] using h
  | cons c rest ih =>
      by_cases hblank : c = '\n' ∧ rest.head? = some '\n'
      · obtain ⟨rfl, hhead⟩ := hblank
        obtain ⟨tail, rfl⟩ := List.head?_eq_some_iff.mp hhead
        rw [splitBlank] at h
        exact absurd (List.cons.inj h).2 (splitBlank_ne_nil _)
      · obtain ⟨first, parts, hrest, hcons⟩ := splitBlank_cons hblank
        rw [hcons] at h
        obtain ⟨rfl, rfl⟩ := List.cons.inj h
        rw [ih hrest]

/-- Text that arrives later is split with the last part of what came before. -/
theorem splitBlank_append (text more : List Char) :
    splitBlank (text ++ more) =
      (splitBlank text).dropLast ++ splitBlank ((splitBlank text).getLastD [] ++ more) := by
  induction text using splitBlank.induct with
  | case1 => rfl
  | case2 rest ih =>
      obtain ⟨part, parts, hrest⟩ := List.exists_cons_of_ne_nil (splitBlank_ne_nil rest)
      rw [List.cons_append, List.cons_append, splitBlank, ih, splitBlank, hrest]
      rfl
  | case3 c rest _ hnil => exact absurd hnil (splitBlank_ne_nil rest)
  | case4 c rest hblank part parts hrest ih =>
      have hc : ¬ (c = '\n' ∧ rest.head? = some '\n') := by
        rintro ⟨rfl, hhead⟩
        obtain ⟨tail, rfl⟩ := List.head?_eq_some_iff.mp hhead
        exact hblank tail rfl rfl
      rcases eq_or_ne rest [] with rfl | hne
      · rw [show splitBlank [c] = [[c]] by rw [splitBlank]; rfl; exact hblank]
        rfl
      obtain ⟨part', parts', hrest', hsplit⟩ := splitBlank_cons hc
      obtain ⟨rfl, rfl⟩ := List.cons.inj (hrest.symm.trans hrest')
      have hmore : ¬ (c = '\n' ∧ (rest ++ more).head? = some '\n') := by
        rwa [List.head?_append_of_ne_nil _ hne]
      obtain ⟨first, others, hwhole, hcons⟩ := splitBlank_cons hmore
      rw [List.cons_append, hcons, hsplit]
      rw [hwhole, hrest] at ih
      cases parts with
      | nil =>
          obtain rfl := eq_of_splitBlank_singleton hrest
          rw [show ([c :: rest] : List (List Char)).getLastD [] = c :: rest from rfl,
            List.cons_append, hcons]
          rfl
      | cons next parts =>
          rw [List.dropLast_cons_of_ne_nil (List.cons_ne_nil _ _)] at ih ⊢
          rw [List.cons_append] at ih ⊢
          obtain ⟨rfl, rfl⟩ := List.cons.inj ih
          rfl

section Reading

variable {parse : List Char → Option JsValue}

/-- Parts are handled one after the other, up to the one that ends the reader. -/
theorem handleParts_append (parts more : List (List Char)) :
    handleParts parse (parts ++ more) = match handleParts parse parts with
      | (deltas, some outcome) => (deltas, some outcome)
      | (deltas, none) => (deltas ++ (handleParts parse more).1, (handleParts parse more).2) := by
  induction parts with
  | nil => rfl
  | cons part parts ih =>
      rw [List.cons_append, handleParts, handleParts]
      cases handlePart parse part with
      | returned => rfl
      | thrown error => rfl
      | next delta =>
          simp only [ih]
          rcases handleParts parse parts with ⟨deltas, _ | outcome⟩
          · simp only [List.append_assoc]
          · rfl

/-- **The pieces do not matter.**  The reader handles the parts of the whole text. -/
theorem readLoop_eq (decoder : TextDecoder) (state : decoder.State) (buffer : List Char)
    (chunks : List (List UInt8)) :
    readLoop parse decoder state buffer chunks =
      let handled := handleParts parse
        (splitBlank (buffer ++ (decodedTexts decoder.decode state chunks).flatten))
      (handled.1, handled.2.getD .returned) := by
  induction chunks generalizing state buffer with
  | nil => simp only [readLoop, decodedTexts, List.flatten_cons, List.flatten_nil, List.append_nil]
  | cons value rest ih =>
      rw [decodedTexts, List.flatten_cons, ← List.append_assoc, splitBlank_append, readLoop]
      simp only [handleParts_append, ih]
      rcases handleParts parse _ with ⟨deltas, _ | outcome⟩ <;> rfl

end Reading

end Gui
end HomeCortex
