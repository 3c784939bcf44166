/-
# Frames of a stream

Each event of a stream is sent as one line `data: <JSON>` and a blank line.  `aiter_lines`
splits at the boundaries of `str.splitlines`, and a JSON text may carry three of them inside
its strings.  An event whose text has no boundary arrives as it was sent (`eventsOf_line`); of
one that is torn no part is a delta (`eventsOf_torn`): its first line ends inside a string, and
a later one is a string where it should be JSON and the other way round.
-/

import HomeCortex.Library.JsonLexing
import HomeCortex.Providers.Deltas

namespace HomeCortex
namespace Providers

open JsonText (lex lex_append_eq_some)

/-- What an event says. -/
inductive Event where
  | delta (delta : Delta)
  | usage
  | error

/-- The JSON of an event: a delta, a usage without a choice or an error instead of choices. -/
def Event.IsPayload : Event → Fields → Prop
  | .delta part, payload => IsDelta payload part
  | .usage, payload => (∃ usage, payload.getD "usage" = .obj usage) ∧
      (payload.getD "choices" = .null ∨ payload.getD "choices" = .arr [])
  | .error, payload => (∃ error, payload.getD "error" = .obj error) ∧
      payload.get? "choices" = none

/-- An event with the text that is sent: one line of JSON without blanks around it. -/
structure SentEvent (floats : FloatFormat) where
  event : Event
  payload : Fields
  text : String
  isPayload : event.IsPayload payload
  loads_text : loads floats text = .ok (.obj payload)
  strip_text : Display.strip text = text
  one_line : ∀ c ∈ text.toList, c ≠ '\n' ∧ c ≠ '\r'

namespace SentEvent

variable {floats : FloatFormat}

/-- The line of an event. -/
def line (sent : SentEvent floats) : List Char := dataPrefix ++ ' ' :: sent.text.toList

/-- The text of an event has a character at which lines are split. -/
def Torn (sent : SentEvent floats) : Prop := ∃ c ∈ sent.text.toList, isLineBreak c = true

end SentEvent

/-- The end of a stream. -/
def doneFrame : List Char := "data: [DONE]\n\n".toList

/-- The text of a response, with or without `[DONE]` at its end. -/
def wire {floats : FloatFormat} (sent : List (SentEvent floats)) (done : Bool) : List Char :=
  sent.flatMap (fun event => event.line ++ ['\n', '\n']) ++ if done then doneFrame else []

/-! ### Blanks around a text -/

/-- What `strip` leaves stands between blanks. -/
theorem strip_eq (text : String) : ∃ before after,
    text.toList = before ++ ((Display.strip text).toList ++ after) ∧
      ∀ c ∈ before ++ after, isSpace c = true := by
  refine ⟨text.toList.takeWhile isSpace,
    ((text.toList.dropWhile isSpace).reverse.takeWhile isSpace).reverse, ?_, ?_⟩
  · rw [Display.strip, String.toList_ofList, ← List.reverse_append,
      List.takeWhile_append_dropWhile, List.reverse_reverse, List.takeWhile_append_dropWhile]
  · intro c hc
    rcases List.mem_append.mp hc with hc | hc
    · exact List.mem_takeWhile_imp hc
    · exact List.mem_takeWhile_imp (List.mem_reverse.mp hc)

/-- A space in front is stripped. -/
theorem strip_space (text : List Char) :
    Display.strip (String.ofList (' ' :: text)) = Display.strip (String.ofList text) := by
  rw [Display.strip, Display.strip, String.toList_ofList, String.toList_ofList,
    List.dropWhile_cons_of_pos (by decide)]

theorem isSpace_plain {c : Char} (h : isSpace c = true) : c ≠ '"' ∧ c ≠ '\\' := by
  constructor
  · rintro rfl
    exact absurd h (by decide)
  · rintro rfl
    exact absurd h (by decide)

/-- Outside strings, blanks that are lexed leave the lexer outside. -/
theorem lex_outside_spaces {text : List Char} {mode : JsonText.Mode}
    (h : ∀ c ∈ text, isSpace c = true) (hlex : lex .outside text = some mode) :
    mode = .outside := by
  have hsyntax := JsonText.syntax_of_lex (fun hc => (isSpace_plain (h _ hc)).1 rfl) hlex
  rw [JsonText.lex_syntax hsyntax] at hlex
  exact (Option.some.inj hlex).symm

/-- Inside a string, what follows some blanks is lexed from inside. -/
theorem lex_inside_spaces {text more : List Char} {mode : JsonText.Mode}
    (h : ∀ c ∈ text, isSpace c = true) (hlex : lex .inside (text ++ more) = some mode) :
    lex .inside more = some mode := by
  rwa [JsonText.lex_append, JsonText.lex_plain fun c hc => isSpace_plain (h c hc),
    Option.bind_some] at hlex

/-! ### Lines that are read -/

/-- Integers are lexical, so it is enough that floats are. -/
theorem format_lexical {floats : FloatFormat} (h : floats.Lexical) :
    (PyNumber.format floats).Lexical := by
  intro cs n rest hread
  change PyNumber.read floats cs = some (n, rest) at hread
  unfold PyNumber.read at hread
  split at hread
  case isTrue =>
    obtain ⟨⟨x, after⟩, hx, heq⟩ := Option.map_eq_some_iff.mp hread
    obtain ⟨-, rfl⟩ := Prod.mk.inj heq
    exact h _ _ _ hx
  case isFalse =>
    obtain ⟨⟨n, after⟩, hn, heq⟩ := Option.map_eq_some_iff.mp hread
    obtain ⟨-, rfl⟩ := Prod.mk.inj heq
    exact JsonText.integers_lexical _ _ _ hn

section Reading

variable {floats : FloatFormat}

/-- What a line must be to be an event. -/
theorem sseEvent_eq_some {line : List Char} {payload : Fields}
    (h : sseEvent floats line = some payload) : ∃ rest, line = dataPrefix ++ rest ∧
      loads floats (Display.strip (String.ofList rest)) = .ok (.obj payload) := by
  unfold sseEvent at h
  split at h
  case isFalse => cases h
  case isTrue hprefix =>
    obtain ⟨rest, rfl⟩ := List.isPrefixOf_iff_prefix.mp hprefix
    refine ⟨rest, rfl, ?_⟩
    have hdrop : (dataPrefix ++ rest).drop 5 = rest := rfl
    simp only [hdrop] at h
    split at h
    case isTrue => cases h
    case isFalse =>
      split at h
      case h_1 value heq => rw [heq, Json.asObject?_eq_some.mp h]
      case h_2 => cases h

/-- A text that is read is JSON. -/
theorem parse_of_loads {text : String} {payload : Fields}
    (h : loads floats text = .ok (.obj payload)) :
    ∃ fields, JsonText.parse (PyNumber.format floats) text.toList = some (.obj fields) ∧
      payload = Fields.merge [] (toJsonFields fields) := by
  unfold loads at h
  split at h
  case h_1 document hparse =>
    have hdocument := Except.ok.inj h
    cases document with
    | num n => cases n <;> cases hdocument
    | obj fields =>
        rw [toJson] at hdocument
        exact ⟨fields, hparse, (Json.obj.inj hdocument).symm⟩
    | _ => cases hdocument
  case h_2 => cases h

/-- A key of a merged record is a key of one of the two. -/
theorem has_merge {record changes : Fields} {key : String}
    (h : (record.merge changes).has key = true) :
    record.has key = true ∨ ∃ change ∈ changes, change.1 = key := by
  induction changes generalizing record with
  | nil => exact .inl h
  | cons change changes ih =>
      rcases @ih (record.set change.1 change.2) h with hset | ⟨other, hmem, hkey⟩
      · rw [Fields.has, Fields.get?_set] at hset
        split at hset
        case isTrue hkey => exact .inr ⟨change, List.mem_cons_self, hkey⟩
        case isFalse => exact .inl hset
      · exact .inr ⟨other, List.mem_cons_of_mem _ hmem, hkey⟩

/-- An event with a delta has choices. -/
theorem has_choices {payload fields : Fields} (h : choiceDelta payload = some fields) :
    payload.has "choices" = true := by
  unfold choiceDelta Fields.getD at h
  rw [Fields.has]
  cases hget : payload.get? "choices" with
  | some value => rfl
  | none =>
      rw [hget] at h
      cases h

variable (hlexical : (PyNumber.format floats).Lexical)

include hlexical

/-- A line that ends inside a string is no event. -/
theorem sseEvent_open {rest : List Char} {mode : JsonText.Mode}
    (h : lex .outside rest = some mode) (hmode : mode ≠ .outside) :
    sseEvent floats (dataPrefix ++ ' ' :: rest) = none := by
  rw [Option.eq_none_iff_forall_not_mem]
  intro payload hpayload
  obtain ⟨rest', hrest, hloads⟩ := sseEvent_eq_some hpayload
  obtain rfl := List.append_cancel_left hrest
  obtain ⟨fields, hparse, -⟩ := parse_of_loads hloads
  obtain ⟨before, after, htext, hspace⟩ := strip_eq (String.ofList (' ' :: rest))
  obtain ⟨hbefore, hafter⟩ := List.forall_mem_append.mp hspace
  rw [String.toList_ofList] at htext
  have hlex : lex .outside (' ' :: rest) = some mode := h
  rw [htext] at hlex
  obtain ⟨first, hfirst, hlex⟩ := lex_append_eq_some.mp hlex
  obtain rfl := lex_outside_spaces hbefore hfirst
  rw [JsonText.lex_append, JsonText.lex_parse hlexical hparse, Option.bind_some] at hlex
  exact hmode (lex_outside_spaces hafter hlex)

/-- A line that starts inside a string carries no delta. -/
theorem sseEvent_inside {line : List Char} {mode : JsonText.Mode}
    (h : lex .inside line = some mode) : (sseEvent floats line).bind choiceDelta = none := by
  rw [Option.eq_none_iff_forall_not_mem]
  intro fields hfields
  obtain ⟨payload, hpayload, hdelta⟩ := Option.bind_eq_some_iff.mp hfields
  obtain ⟨rest, rfl, hloads⟩ := sseEvent_eq_some hpayload
  obtain ⟨members, hparse, rfl⟩ := parse_of_loads hloads
  obtain ⟨before, after, htext, hspace⟩ := strip_eq (String.ofList rest)
  obtain ⟨hbefore, -⟩ := List.forall_mem_append.mp hspace
  rw [String.toList_ofList] at htext
  have hrest : lex .inside rest = some mode := h
  rw [htext] at hrest
  obtain ⟨middle, hmiddle, -⟩ := lex_append_eq_some.mp (lex_inside_spaces hbefore hrest)
  have hkey : ∃ member ∈ members, member.1 = "choices" := by
    rcases has_merge (has_choices hdelta) with hnil | ⟨change, hmem, hkey⟩
    · cases hnil
    · rw [toJsonFields_eq] at hmem
      obtain ⟨member, hmember, rfl⟩ := List.mem_map.mp hmem
      exact ⟨member, hmember, hkey⟩
  obtain ⟨member, hmember, hchoices⟩ := hkey
  rw [JsonText.parse, Option.bind_eq_bind, Option.bind_eq_some_iff] at hparse
  obtain ⟨⟨document, tail⟩, hread, hparse⟩ := hparse
  dsimp only at hparse
  split at hparse
  case isFalse => cases hparse
  case isTrue =>
    obtain rfl := Option.some.inj hparse
    have hchars := (JsonText.keyAt_read hlexical hread member hmember).chars hmiddle 'h'
    rw [hchoices] at hchars
    exact absurd (hchars (by decide)) (by decide)

end Reading

/-! ### Lines of a frame -/

theorem isSyntax_of_isLineBreak {c : Char} (h : isLineBreak c = true) (hfeed : c ≠ '\n')
    (hreturn : c ≠ '\r') : JsonText.isSyntax c = false ∧ c ≠ '"' ∧ c ≠ '\\' := by
  simp only [isLineBreak, List.contains_eq_mem, List.mem_cons, List.not_mem_nil, or_false,
    decide_eq_true_eq] at h
  rcases h with rfl | rfl | rfl | rfl | rfl | rfl | rfl | rfl | rfl | rfl
  · exact absurd rfl hfeed
  case inr.inr.inr.inl => exact absurd rfl hreturn
  all_goals decide

/-- A line is only split inside a string, and goes on inside it. -/
theorem next_lineBreak {c : Char} {mode after : JsonText.Mode} (hc : isLineBreak c = true)
    (hfeed : c ≠ '\n') (hreturn : c ≠ '\r') (h : mode.next c = some after) :
    mode ≠ .outside ∧ after = .inside := by
  obtain ⟨houtside, hquote, hback⟩ := isSyntax_of_isLineBreak hc hfeed hreturn
  cases mode with
  | outside =>
      rw [JsonText.Mode.next, if_neg hquote, if_neg (by simp [houtside])] at h
      cases h
  | inside =>
      rw [JsonText.Mode.next, if_neg hquote, if_neg hback] at h
      exact ⟨by simp, (Option.some.inj h).symm⟩
  | escaped => exact ⟨by simp, (Option.some.inj h).symm⟩

/-- **After the first line** every line is lexed from inside. -/
theorem lex_lines {text line : List Char} {mode final : JsonText.Mode}
    (hone : ∀ c ∈ text, c ≠ '\n' ∧ c ≠ '\r') (hline : lex .inside line = some mode)
    (htext : lex mode text = some final) :
    ∀ part ∈ splitLines line (text ++ ['\n']), ∃ mode, lex .inside part = some mode := by
  induction text generalizing line mode with
  | nil =>
      intro part hpart
      rw [List.nil_append, splitLines_step (by decide), if_pos (by decide), splitLines,
        if_pos rfl, List.mem_singleton] at hpart
      exact ⟨mode, hpart ▸ hline⟩
  | cons c text ih =>
      obtain ⟨⟨hfeed, hreturn⟩, hone⟩ := List.forall_mem_cons.mp hone
      rw [JsonText.lex_cons, Option.bind_eq_some_iff] at htext
      obtain ⟨after, hnext, htext⟩ := htext
      rw [List.cons_append, splitLines_step hreturn]
      split
      case isTrue hc =>
        obtain ⟨-, rfl⟩ := next_lineBreak hc hfeed hreturn hnext
        exact List.forall_mem_cons.mpr ⟨⟨mode, hline⟩, ih hone (JsonText.lex_nil _) htext⟩
      case isFalse =>
        refine ih hone (lex_append_eq_some.mpr ⟨mode, hline, ?_⟩) htext
        rw [JsonText.lex_cons, hnext]
        rfl

namespace SentEvent

variable {floats : FloatFormat} (sent : SentEvent floats)

/-- The events that are read of a frame. -/
def eventsOf : List Fields :=
  (splitLines [] (sent.line ++ ['\n'])).filterMap (sseEvent floats)

theorem line_one_line : '\r' ∉ sent.line := by
  intro hmem
  rcases List.mem_append.mp hmem with hmem | hmem
  · exact absurd hmem (by decide)
  · rcases List.mem_cons.mp hmem with hspace | hmem
    · exact absurd hspace (by decide)
    · exact (sent.one_line _ hmem).2 rfl

theorem prefix_unbroken : ∀ c ∈ dataPrefix ++ [' '], isLineBreak c = false := by
  simp [dataPrefix, isLineBreak]

/-- **An event on one line** arrives as it was sent. -/
theorem eventsOf_line (h : ¬ sent.Torn) : sent.eventsOf = [sent.payload] := by
  have hline : ∀ c ∈ sent.line, isLineBreak c = false := by
    intro c hc
    rw [line, List.append_cons, List.mem_append] at hc
    rcases hc with hc | hc
    · exact prefix_unbroken c hc
    · exact Bool.eq_false_iff.mpr fun hbreak => h ⟨c, hc, hbreak⟩
  have hstrip : Display.strip (String.ofList (' ' :: sent.text.toList)) = sent.text := by
    rw [strip_space, String.ofList_toList, sent.strip_text]
  have hempty : sent.text ≠ "" := by
    intro htext
    have hloads := sent.loads_text
    rw [htext] at hloads
    cases hloads
  have hdone : sent.text ≠ "[DONE]" := by
    intro htext
    have hloads := sent.loads_text
    rw [htext] at hloads
    cases hloads
  have hprefix : dataPrefix.isPrefixOf sent.line = true :=
    List.isPrefixOf_iff_prefix.mpr ⟨_, rfl⟩
  have hdrop : sent.line.drop 5 = ' ' :: sent.text.toList := rfl
  have hevent : sseEvent floats sent.line = some sent.payload := by
    rw [sseEvent, if_pos hprefix, hdrop, hstrip]
    dsimp only
    rw [if_neg (not_or.mpr ⟨hempty, hdone⟩), sent.loads_text]
    rfl
  rw [eventsOf, splitLines_line hline, List.nil_append, List.filterMap_cons, hevent]
  rfl

/-- **A torn event** carries no delta. -/
theorem eventsOf_torn (hlexical : (PyNumber.format floats).Lexical) (h : sent.Torn) :
    sent.eventsOf.filterMap choiceDelta = [] := by
  obtain ⟨fields, hparse, -⟩ := parse_of_loads sent.loads_text
  have hlex := JsonText.lex_parse hlexical hparse
  obtain ⟨c, hfind⟩ := Option.isSome_iff_exists.mp (List.find?_isSome.mpr h)
  obtain ⟨hc, before, rest, htext, hbefore⟩ := List.find?_eq_some_iff_append.mp hfind
  have hone := sent.one_line
  rw [htext] at hlex hone
  obtain ⟨-, hone⟩ := List.forall_mem_append.mp hone
  obtain ⟨⟨hfeed, hreturn⟩, hone⟩ := List.forall_mem_cons.mp hone
  obtain ⟨mode, hmode, hlex⟩ := lex_append_eq_some.mp hlex
  rw [JsonText.lex_cons, Option.bind_eq_some_iff] at hlex
  obtain ⟨after, hnext, hrest⟩ := hlex
  obtain ⟨hopen, rfl⟩ := next_lineBreak hc hfeed hreturn hnext
  have hfirst : ∀ d ∈ (dataPrefix ++ [' ']) ++ before, isLineBreak d = false := by
    refine List.forall_mem_append.mpr ⟨prefix_unbroken, fun d hd => ?_⟩
    simpa using hbefore d hd
  have hline : sent.line ++ ['\n'] =
      ((dataPrefix ++ [' ']) ++ before) ++ c :: (rest ++ ['\n']) := by
    rw [line, htext, List.append_cons dataPrefix]
    simp only [List.append_assoc, List.cons_append]
  rw [eventsOf, hline, splitLines_prefix hfirst hreturn hc, List.filterMap_filterMap,
    List.filterMap_eq_nil_iff, List.forall_mem_cons, List.nil_append]
  refine ⟨?_, fun part hpart => ?_⟩
  · rw [← List.append_cons, sseEvent_open hlexical hmode hopen]
    rfl
  · obtain ⟨final, hfinal⟩ := lex_lines hone (JsonText.lex_nil _) hrest part hpart
    exact sseEvent_inside hlexical hfinal

end SentEvent

/-! ### The whole text -/

variable {floats : FloatFormat}

theorem doneFrame_events : (splitLines [] doneFrame).filterMap (sseEvent floats) = [] := by
  have hlines : splitLines [] doneFrame = ["data: [DONE]".toList, []] := by decide +kernel
  rw [hlines]
  rfl

/-- The events of a text are those of its frames. -/
theorem iterSseJson_wire (sent : List (SentEvent floats)) (done : Bool) :
    iterSseJson floats (wire sent done) = sent.flatMap SentEvent.eventsOf := by
  rw [iterSseJson, wire]
  induction sent with
  | nil =>
      cases done with
      | true => exact doneFrame_events
      | false => rfl
  | cons event sent ih =>
      rw [List.flatMap_cons, List.flatMap_cons, ← ih, SentEvent.eventsOf, ← List.filterMap_append]
      simp only [List.append_assoc, List.cons_append, List.nil_append]
      rw [splitLines_append event.line_one_line, splitLines_step (by decide), if_pos (by decide),
        List.filterMap_append, List.filterMap_append]
      rfl

end Providers
end HomeCortex
