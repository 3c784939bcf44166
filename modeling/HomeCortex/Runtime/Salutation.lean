/-
# The streamed answer and the collected answer

The same answer is rendered piece by piece by `ModelLoop.stream` and as a whole by
`ModelLoop.run`.  The display stream alone loses nothing, for it cuts only where no id
can go on.  The salutation does: `_SelfVocativeStream` strips the white space after the
agent's name from what has arrived so far, so white space that arrives later stays.
`streamStep_eq_runStep_iff` says exactly when the two answers agree.
-/

import HomeCortex.Runtime.ModelLoop
import Mathlib

namespace HomeCortex
namespace Runtime

open Display

/-! ### Salutations -/

section Salutations

variable (folding : CaseFolding) (agent_name : Option String)

/-- A text starts with a salutation, up to case. -/
def salutes (text salutation : List Char) : Bool :=
  (folding.casefold salutation).isPrefixOf (folding.casefold text)

/-- The salutation that a text starts with. -/
def salutation? (text : List Char) : Option (List Char) :=
  (selfVocativePrefixes agent_name).find? (salutes folding text)

variable {folding agent_name}

theorem casefold_append (text more : List Char) :
    folding.casefold (text ++ more) = folding.casefold text ++ folding.casefold more :=
  List.flatMap_append

/-- All salutations of one agent have folded texts of one length. -/
theorem casefold_salutation_length {p : List Char} (hp : p ∈ selfVocativePrefixes agent_name) :
    (folding.casefold p).length = (folding.casefold (agent_name.getD "").toList).length + 1 := by
  unfold selfVocativePrefixes at hp
  split at hp
  · cases hp
  · split at hp
    · cases hp
    · obtain ⟨punctuation, hpunctuation, rfl⟩ := List.mem_map.mp hp
      have hfold := folding.punctuation punctuation hpunctuation
      rw [casefold_append, List.length_append]
      simp [CaseFolding.casefold, hfold]

/-- The empty text is not greeted. -/
theorem salutation?_nil : salutation? folding agent_name [] = none := by
  rw [salutation?, List.find?_eq_none]
  intro p hp hsalutes
  have hlength := @casefold_salutation_length folding agent_name p hp
  rw [salutes, List.isPrefixOf_iff_prefix] at hsalutes
  have hle := hsalutes.length_le
  simp only [CaseFolding.casefold, List.flatMap_nil, List.length_nil] at hle hlength
  omega

/-- A salutation stays the one that a text starts with when the text goes on. -/
theorem salutation?_append {text p : List Char} (h : salutation? folding agent_name text = some p)
    (more : List Char) : salutation? folding agent_name (text ++ more) = some p := by
  rw [salutation?, List.find?_eq_some_iff_append] at h ⊢
  obtain ⟨hp, before, after, hlist, hbefore⟩ := h
  have hpmem : p ∈ selfVocativePrefixes agent_name := by rw [hlist]; simp
  have hptext := List.isPrefixOf_iff_prefix.mp hp
  refine ⟨?_, before, after, hlist, fun q hq => ?_⟩
  · rw [salutes, List.isPrefixOf_iff_prefix, casefold_append]
    exact hptext.trans (List.prefix_append _ _)
  · -- A salutation before `p` would have matched the shorter text too.
    have hqmem : q ∈ selfVocativePrefixes agent_name := by rw [hlist]; simp [hq]
    by_contra hsalutes
    simp only [Bool.not_eq_true', Bool.not_eq_false, salutes, List.isPrefixOf_iff_prefix,
      casefold_append] at hsalutes
    have hpq := List.prefix_of_prefix_length_le hsalutes
      (hptext.trans (List.prefix_append _ _))
      ((casefold_salutation_length hqmem).trans (casefold_salutation_length hpmem).symm).le
    have hqtext : salutes folding text q = true :=
      List.isPrefixOf_iff_prefix.mpr (hpq.trans hptext)
    have := hbefore q hq
    simp [hqtext] at this

/-- A text that is neither greeted nor the start of a salutation is never greeted. -/
theorem salutation?_append_none {text : List Char}
    (hnone : salutation? folding agent_name text = none)
    (hpossible : (selfVocativePrefixes agent_name).any (fun salutation =>
      (folding.casefold text).isPrefixOf (folding.casefold salutation)) = false)
    (more : List Char) : salutation? folding agent_name (text ++ more) = none := by
  rw [salutation?, List.find?_eq_none] at hnone ⊢
  intro p hp hsalutes
  rw [salutes, List.isPrefixOf_iff_prefix, casefold_append] at hsalutes
  rcases List.prefix_or_prefix_of_prefix hsalutes (List.prefix_append _ _) with h | h
  · exact hnone p hp (List.isPrefixOf_iff_prefix.mpr h)
  · rw [List.any_eq_false] at hpossible
    exact hpossible p hp (List.isPrefixOf_iff_prefix.mpr h)

end Salutations

/-! ### The salutation stream over a whole answer -/

/-- What a salutation stream gives of some pieces, the empty ones left out. -/
def SelfVocativeStream.speak (folding : CaseFolding) (stream : SelfVocativeStream) :
    List (List Char) → List (List Char)
  | [] => if stream.finish.1 = [] then [] else [stream.finish.1]
  | piece :: pieces =>
      if piece = [] then speak folding stream pieces
      else
        let fed := stream.feed folding piece
        if fed.1 = [] then speak folding fed.2 pieces else fed.1 :: speak folding fed.2 pieces

/-- What the display stream gives of some chunks. -/
def displayed (folding : CaseFolding) (display : TextStream) : List (List Char) → List (List Char)
  | [] => [(display.finish folding).1]
  | chunk :: chunks =>
      (display.feed folding chunk).1 :: displayed folding (display.feed folding chunk).2 chunks

section Speaking

variable {folding : CaseFolding}

theorem cons_unless_nil (emitted : List Char) (rest : List (List Char)) :
    (if emitted = [] then rest else emitted :: rest).flatten = emitted ++ rest.flatten := by
  split
  · simp [*]
  · rfl

/-- A resolved stream gives what it gets. -/
theorem speak_resolved {stream : SelfVocativeStream} (hresolved : stream.resolved = true)
    (hpending : stream.pending = []) (pieces : List (List Char)) :
    (stream.speak folding pieces).flatten = pieces.flatten := by
  induction pieces with
  | nil => simp [SelfVocativeStream.speak, SelfVocativeStream.finish, hpending]
  | cons piece pieces ih =>
      rw [SelfVocativeStream.speak]
      split
      case isTrue hempty => simpa [hempty] using ih
      case isFalse hsome =>
        simp only [SelfVocativeStream.feed, hresolved, if_true, if_neg hsome, List.flatten_cons, ih]

/-- `feed` of an unresolved stream, by the salutation of what has arrived. -/
theorem SelfVocativeStream.feed_eq {stream : SelfVocativeStream} (hresolved : stream.resolved = false)
    (text : List Char) :
    stream.feed folding text =
      match salutation? folding stream.agent_name (stream.pending ++ text) with
      | some salutation =>
          (addressPrefix stream.speaker_address stream.language ++
              ((stream.pending ++ text).drop salutation.length).dropWhile isSpace,
            { stream with pending := [], resolved := true })
      | none =>
          if (selfVocativePrefixes stream.agent_name).any (fun salutation =>
              (folding.casefold (stream.pending ++ text)).isPrefixOf
                (folding.casefold salutation)) then
            ([], { stream with pending := stream.pending ++ text })
          else (stream.pending ++ text, { stream with pending := [], resolved := true }) := by
  rw [feed, if_neg (by simp [hresolved])]
  rfl

/-- `_repair_self_vocative`: the salutation of a whole text is replaced by the address. -/
theorem repairSelfVocative_eq (text : List Char) (agent_name speaker_address : Option String)
    (language : String) :
    repairSelfVocative folding text agent_name speaker_address language =
      match salutation? folding agent_name text with
      | some salutation => addressPrefix speaker_address language ++
          (text.drop salutation.length).dropWhile isSpace
      | none => text := by
  rw [repairSelfVocative, SelfVocativeStream.start]
  cases agent_name with
  | none =>
      simp [SelfVocativeStream.feed, SelfVocativeStream.finish, salutation?, selfVocativePrefixes]
  | some agent_name =>
      rw [SelfVocativeStream.feed_eq rfl, List.nil_append]
      cases salutation? folding (some agent_name) text with
      | some salutation => exact List.append_nil _
      | none =>
          dsimp only
          split
          · exact List.nil_append _
          · exact List.append_nil _

/-! ### White space after a salutation -/

/-- Where a text that carries a salutation of `length` characters ends, and what follows:
nothing follows, or the text goes beyond the white space after the salutation, or what
follows does not start with white space. -/
def Trimmed (length : Nat) (text more : List Char) : Prop :=
  more = [] ∨ (∃ c ∈ text.drop length, isSpace c = false) ∨
    (length ≤ text.length ∧ ∀ c ∈ more.head?, isSpace c = false)

theorem dropWhile_append_of_exists {cs : List Char} (h : ∃ c ∈ cs, isSpace c = false)
    (more : List Char) :
    (cs ++ more).dropWhile isSpace = cs.dropWhile isSpace ++ more := by
  rw [List.dropWhile_append, if_neg]
  obtain ⟨c, hc, hspace⟩ := h
  rw [List.isEmpty_iff, List.dropWhile_eq_nil_iff]
  intro hall
  rw [hall c hc] at hspace
  cases hspace

/-- **Stripping early.**  The white space after the salutation is stripped from a part of
the text as from the whole text exactly where the part is cut well. -/
theorem trimmed_iff (length : Nat) (text more : List Char) :
    (text.drop length).dropWhile isSpace ++ more =
      ((text ++ more).drop length).dropWhile isSpace ↔ Trimmed length text more := by
  rw [List.drop_append]
  by_cases hexists : ∃ c ∈ text.drop length, isSpace c = false
  case pos =>
    -- The text goes beyond the white space: nothing of `more` is stripped.
    refine ⟨fun _ => .inr (.inl hexists), fun _ => ?_⟩
    have hlength : length - text.length = 0 := by
      obtain ⟨c, hc, _⟩ := hexists
      have := List.length_pos_of_mem hc
      simp only [List.length_drop] at this
      omega
    rw [hlength, List.drop_zero, dropWhile_append_of_exists hexists]
  case neg =>
    have hall : ∀ c ∈ text.drop length, isSpace c = true := by
      intro c hc
      by_contra hspace
      exact hexists ⟨c, hc, by simpa using hspace⟩
    have hnil : (text.drop length).dropWhile isSpace = [] := List.dropWhile_eq_nil_iff.mpr hall
    rw [List.dropWhile_append, hnil, List.nil_append, List.isEmpty_nil, if_pos rfl]
    constructor
    · -- `more` is left as it is: it is empty, or nothing of it is dropped.
      intro h
      rcases more with _ | ⟨c, more⟩
      · exact .inl rfl
      refine .inr (.inr ⟨?_, ?_⟩)
      · by_contra hlt
        have hle := (List.dropWhile_sublist isSpace (l := (c :: more).drop (length - text.length))).length_le
        rw [← h, List.length_drop, List.length_cons] at hle
        omega
      · intro d hd
        obtain rfl : c = d := by simpa using hd
        by_contra hspace
        have hspace : isSpace c = true := by simpa using hspace
        have hle : (((c :: more).drop (length - text.length)).dropWhile isSpace).length ≤ more.length := by
          cases hdrop : length - text.length with
          | zero =>
              rw [List.drop_zero, List.dropWhile_cons_of_pos hspace]
              exact (List.dropWhile_sublist _).length_le
          | succ n =>
              refine (List.dropWhile_sublist _).length_le.trans ?_
              simp
        rw [← h, List.length_cons] at hle
        omega
    · rintro (rfl | hsome | ⟨hlength, hhead⟩)
      · simp
      · exact absurd hsome hexists
      · rw [Nat.sub_eq_zero_of_le hlength, List.drop_zero]
        cases more with
        | nil => rfl
        | cons c more => simp [hhead c rfl]

/-- The first of some pieces with which the text is greeted is cut well. -/
def TrimmedPieces (folding : CaseFolding) (agent_name : Option String) (said : List Char) :
    List (List Char) → Prop
  | [] => True
  | piece :: pieces =>
      match salutation? folding agent_name (said ++ piece) with
      | some salutation => Trimmed salutation.length (said ++ piece) pieces.flatten
      | none => TrimmedPieces folding agent_name (said ++ piece) pieces

theorem trimmedPieces_of_none {agent_name : Option String} {said : List Char}
    (h : ∀ more, salutation? folding agent_name (said ++ more) = none)
    (pieces : List (List Char)) : TrimmedPieces folding agent_name said pieces := by
  induction pieces generalizing said with
  | nil => trivial
  | cons piece pieces ih =>
      rw [TrimmedPieces, h piece]
      exact ih fun more => by rw [List.append_assoc]; exact h _

/-- **The salutation stream over a whole answer** gives what the whole answer is repaired
to, exactly where the first greeted piece is cut well. -/
theorem speak_eq_repair_iff {stream : SelfVocativeStream} (hresolved : stream.resolved = false)
    (hnone : salutation? folding stream.agent_name stream.pending = none)
    (pieces : List (List Char)) :
    (stream.speak folding pieces).flatten =
      repairSelfVocative folding (stream.pending ++ pieces.flatten) stream.agent_name
        stream.speaker_address stream.language ↔
      TrimmedPieces folding stream.agent_name stream.pending pieces := by
  rw [repairSelfVocative_eq]
  induction pieces generalizing stream with
  | nil =>
      rw [List.flatten_nil, List.append_nil, hnone]
      simp only [SelfVocativeStream.speak, SelfVocativeStream.finish, TrimmedPieces, iff_true]
      exact (cons_unless_nil stream.pending []).trans (List.append_nil _)
  | cons piece pieces ih =>
      rw [SelfVocativeStream.speak, TrimmedPieces, List.flatten_cons]
      split
      case isTrue hempty =>
        subst hempty
        rw [List.append_nil, hnone, List.nil_append]
        exact ih hresolved hnone
      case isFalse hsome =>
        rw [cons_unless_nil, SelfVocativeStream.feed_eq hresolved, ← List.append_assoc]
        cases hsalutation : salutation? folding stream.agent_name (stream.pending ++ piece) with
        | some salutation =>
            -- From the salutation on the stream is resolved.
            dsimp only
            rw [speak_resolved rfl rfl, salutation?_append hsalutation, List.append_assoc,
              List.append_cancel_left_eq]
            exact trimmed_iff _ _ _
        | none =>
            dsimp only
            split
            case isTrue hpossible => exact ih hresolved hsalutation
            case isFalse hpossible =>
              -- No continuation is greeted, and from here on the stream is resolved.
              have hnever := salutation?_append_none hsalutation (by simpa using hpossible)
              rw [speak_resolved rfl rfl, hnever]
              simp only [true_iff]
              exact trimmedPieces_of_none hnever pieces

end Speaking

/-! ### The display stream over a whole answer -/

section Displaying

variable {folding : CaseFolding}

/-- A whole text as a display stream renders it. -/
def rendered (folding : CaseFolding) (display : TextStream) (text : List Char) : List Char :=
  display.resolver.render folding text display.language display.expose_internal_ids
    display.person_mode

/-- What a display stream lets through of a text so far: all but trailing id characters. -/
def released (display : TextStream) (text : List Char) : List Char :=
  if display.expose_internal_ids then text else (TextStream.splitTrailing text).1

/-- What a display stream has given of a text so far. -/
def shown (folding : CaseFolding) (display : TextStream) (text : List Char) : List Char :=
  rendered folding display (released display text)

/-- A display stream that has read a text. -/
def reading (display : TextStream) (text : List Char) : TextStream :=
  { display with
    pending := if display.expose_internal_ids then [] else (TextStream.splitTrailing text).2 }

theorem rendered_append (display : TextStream) {text : List Char}
    (h : display.expose_internal_ids = false → Closed text) (rest : List Char) :
    rendered folding display (text ++ rest) =
      rendered folding display text ++ rendered folding display rest := by
  cases hexpose : display.expose_internal_ids with
  | true => simp [rendered, Resolver.render, hexpose]
  | false =>
      simp only [rendered, hexpose]
      exact Resolver.render_append _ (h hexpose) _ _ _

theorem released_closed (display : TextStream) (text : List Char)
    (h : display.expose_internal_ids = false) : Closed (released display text) := by
  rw [released, h]
  exact TextStream.splitTrailing_closed text

/-- **One chunk.**  The display stream renders the part of the content that the chunk lets
through, and that part is closed. -/
theorem feed_reading (display : TextStream) (text chunk : List Char) :
    ∃ part, (reading display text).feed folding chunk =
        (rendered folding display part, reading display (text ++ chunk)) ∧
      released display text ++ part = released display (text ++ chunk) ∧
      (display.expose_internal_ids = false → Closed part) := by
  cases hexpose : display.expose_internal_ids with
  | true =>
      refine ⟨chunk, ?_, ?_, fun h => nomatch h⟩
      · simp [reading, TextStream.feed, rendered, Resolver.render, hexpose]
      · simp [released, hexpose]
  | false =>
      have hsplit := TextStream.splitTrailing_append_closed
        (TextStream.splitTrailing_closed text) ((TextStream.splitTrailing text).2 ++ chunk)
      rw [← List.append_assoc, TextStream.splitTrailing_append] at hsplit
      refine ⟨(TextStream.splitTrailing ((TextStream.splitTrailing text).2 ++ chunk)).1, ?_, ?_,
        fun _ => TextStream.splitTrailing_closed _⟩
      · simp [reading, TextStream.feed, rendered, hexpose, hsplit]
      · simp [released, hexpose, hsplit]

/-- The end of the content lets the rest through. -/
theorem finish_reading (display : TextStream) (text : List Char) :
    ∃ part, ((reading display text).finish folding).1 = rendered folding display part ∧
      released display text ++ part = text := by
  cases hexpose : display.expose_internal_ids with
  | true =>
      refine ⟨[], ?_, ?_⟩
      · simp [reading, TextStream.finish, rendered, Resolver.render, hexpose, subIds, tokens, scanIds]
      · simp [released, hexpose]
  | false =>
      refine ⟨(TextStream.splitTrailing text).2, ?_, ?_⟩
      · simp [reading, TextStream.finish, rendered, hexpose]
      · simp [released, hexpose, TextStream.splitTrailing_append]

/-- **The display stream over a whole answer** renders parts of the content, each but the
last one closed. -/
theorem displayed_parts (display : TextStream) (text : List Char) (chunks : List (List Char)) :
    ∃ parts last, displayed folding (reading display text) chunks =
        (parts ++ [last]).map (rendered folding display) ∧
      released display text ++ (parts.flatten ++ last) = text ++ chunks.flatten ∧
      (display.expose_internal_ids = false → ∀ part ∈ parts, Closed part) := by
  induction chunks generalizing text with
  | nil =>
      obtain ⟨last, hpiece, hwhole⟩ := @finish_reading folding display text
      exact ⟨[], last, by simp [displayed, hpiece], by simpa using hwhole, by simp⟩
  | cons chunk chunks ih =>
      obtain ⟨part, hfeed, hreleased, hclosed⟩ := @feed_reading folding display text chunk
      obtain ⟨parts, last, hpieces, hwhole, hparts⟩ := ih (text ++ chunk)
      refine ⟨part :: parts, last, by simp [displayed, hfeed, hpieces], ?_, fun hexpose => ?_⟩
      · rw [← hreleased] at hwhole
        simpa using hwhole
      · exact List.forall_mem_cons.mpr ⟨hclosed hexpose, hparts hexpose⟩

/-- Nothing is lost: what has been shown of a text and what is still displayed is the
rendered answer. -/
theorem displayed_flatten (display : TextStream) (text : List Char) (chunks : List (List Char)) :
    shown folding display text ++ (displayed folding (reading display text) chunks).flatten =
      rendered folding display (text ++ chunks.flatten) := by
  induction chunks generalizing text with
  | nil =>
      obtain ⟨last, hpiece, hwhole⟩ := @finish_reading folding display text
      rw [displayed, hpiece, List.flatten_singleton, shown,
        ← rendered_append display (released_closed display text), hwhole, List.flatten_nil,
        List.append_nil]
  | cons chunk chunks ih =>
      obtain ⟨part, hfeed, hreleased, -⟩ := @feed_reading folding display text chunk
      rw [displayed, hfeed, List.flatten_cons, ← List.append_assoc, shown,
        ← rendered_append display (released_closed display text), hreleased, List.flatten_cons,
        ← List.append_assoc]
      exact ih (text ++ chunk)

/-- The first chunk with which the shown text is greeted cuts the answer well. -/
def TrimmedChunks (folding : CaseFolding) (agent_name : Option String) (display : TextStream)
    (text : List Char) (chunks : List (List Char)) : Prop :=
  ∀ before chunk after salutation, chunks = before ++ chunk :: after →
    salutation? folding agent_name (shown folding display (text ++ before.flatten)) = none →
    salutation? folding agent_name (shown folding display (text ++ before.flatten ++ chunk)) =
      some salutation →
    Trimmed salutation.length (shown folding display (text ++ before.flatten ++ chunk))
      ((rendered folding display (text ++ chunks.flatten)).drop
        (shown folding display (text ++ before.flatten ++ chunk)).length)

/-- What is shown of a text starts what is shown of a longer one. -/
theorem shown_append (display : TextStream) (text more : List Char) :
    ∃ piece, shown folding display (text ++ more) = shown folding display text ++ piece := by
  obtain ⟨part, -, hreleased, -⟩ := @feed_reading folding display text more
  refine ⟨rendered folding display part, ?_⟩
  rw [shown, ← hreleased, rendered_append display (released_closed display text)]
  rfl

theorem trimmedPieces_displayed_iff (agent_name : Option String) (display : TextStream)
    (text : List Char) (chunks : List (List Char))
    (hnone : salutation? folding agent_name (shown folding display text) = none) :
    TrimmedPieces folding agent_name (shown folding display text)
        (displayed folding (reading display text) chunks) ↔
      TrimmedChunks folding agent_name display text chunks := by
  induction chunks generalizing text with
  | nil =>
      simp only [displayed, TrimmedPieces, TrimmedChunks]
      constructor
      · intro _ before chunk after salutation h
        simp at h
      · intro _
        split
        · exact .inl rfl
        · trivial
  | cons chunk chunks ih =>
      obtain ⟨part, hfeed, hreleased, -⟩ := @feed_reading folding display text chunk
      have hshown : shown folding display text ++ rendered folding display part =
          shown folding display (text ++ chunk) := by
        rw [shown, ← rendered_append display (released_closed display text), hreleased]
        rfl
      rw [displayed, hfeed, TrimmedPieces, hshown]
      cases hsalutation : salutation? folding agent_name (shown folding display (text ++ chunk)) with
      | some salutation =>
          -- This chunk is the first one, and the only one the condition is about.
          have hrest : (displayed folding (reading display (text ++ chunk)) chunks).flatten =
              (rendered folding display (text ++ (chunk :: chunks).flatten)).drop
                (shown folding display (text ++ chunk)).length := by
            rw [List.flatten_cons, ← List.append_assoc, ← displayed_flatten, List.drop_left]
          dsimp only
          rw [hrest]
          constructor
          · intro htrimmed before other after found hsplit hbefore hfound
            rcases before with _ | ⟨first, before⟩
            · obtain ⟨rfl, rfl⟩ := List.cons.inj hsplit
              simp only [List.flatten_nil, List.append_nil] at hfound ⊢
              obtain rfl := Option.some.inj (hsalutation.symm.trans hfound)
              exact htrimmed
            · obtain ⟨rfl, -⟩ := List.cons.inj hsplit
              rw [List.flatten_cons, ← List.append_assoc] at hbefore
              obtain ⟨piece, hpiece⟩ := @shown_append folding display (text ++ chunk) before.flatten
              rw [hpiece, salutation?_append hsalutation] at hbefore
              cases hbefore
          · intro h
            have := h [] chunk chunks salutation rfl (by simpa using hnone) (by simpa using hsalutation)
            simpa using this
      | none =>
          -- The first chunk is among the later ones.
          dsimp only
          rw [ih (text ++ chunk) hsalutation]
          constructor
          · intro h before other after found hsplit hbefore hfound
            rcases before with _ | ⟨first, before⟩
            · obtain ⟨rfl, rfl⟩ := List.cons.inj hsplit
              simp only [List.flatten_nil, List.append_nil] at hfound
              exact absurd (hsalutation.symm.trans hfound) (by simp)
            · obtain ⟨rfl, htail⟩ := List.cons.inj hsplit
              simp only [List.flatten_cons, ← List.append_assoc] at hbefore hfound ⊢
              exact h before other after found htail hbefore hfound
          · intro h before other after found hsplit hbefore hfound
            have := h (chunk :: before) other after found (by rw [hsplit]; rfl)
              (by simpa using hbefore) (by simpa using hfound)
            simpa using this

end Displaying

/-! ### A final step, streamed and collected -/

section Steps

/-- A response of the model with a chunk of the content, or the whole of it. -/
def contentMessage (content : String) : ChatMessage := ⟨"assistant", some content, []⟩

variable (folding : CaseFolding) (loads : String → Option Json)
  (localized_identity : List (String × String)) (state : LoopState)

/-- The name that the agent goes by in the language of the loop. -/
abbrev agentName : Option String := localized_identity.lookup state.presentation_language

/-- The display stream of a step. -/
abbrev stepDisplay : TextStream :=
  (Streaming.start folding loads localized_identity state).display

/-- The salutation stream of a step. -/
abbrev stepVocative : SelfVocativeStream :=
  (Streaming.start folding loads localized_identity state).vocative

/-- What a final step should do with a content that arrives in chunks: it yields the
answer of `run`, and it renders ids whole, each in one part of the content. -/
structure StreamsAnswer (chunks : List String) : Prop where
  answered : (streamStep folding loads localized_identity state
    (chunks.map contentMessage)).2 = .answered
  whole : some (streamStep folding loads localized_identity state
      (chunks.map contentMessage)).1.flatten =
    runStep folding loads localized_identity state (contentMessage (String.join chunks))
  ids_whole : state.expose_internal_ids = false → ∃ parts : List (List Char),
    parts.flatten = (String.join chunks).toList ∧
    parts.flatMap tokens = tokens (String.join chunks).toList ∧
    (streamStep folding loads localized_identity state (chunks.map contentMessage)).1 =
      (stepVocative folding loads localized_identity state).speak folding
        (parts.map (rendered folding (stepDisplay folding loads localized_identity state)))

variable {folding loads localized_identity state}

/-- What one displayed piece yields, and what the salutation stream says after it. -/
theorem address_speak (streaming : Streaming) (piece : List Char) (pieces : List (List Char)) :
    streaming.vocative.speak folding (piece :: pieces) =
      (streaming.address folding piece).1 ++
        (streaming.address folding piece).2.vocative.speak folding pieces := by
  rw [SelfVocativeStream.speak, Streaming.address]
  split
  · rfl
  · dsimp only
    split <;> rfl

theorem address_keeps (streaming : Streaming) (piece : List Char) :
    (streaming.address folding piece).2.display = streaming.display ∧
      (streaming.address folding piece).2.tool_calls = streaming.tool_calls := by
  rw [Streaming.address]
  split
  · exact ⟨rfl, rfl⟩
  · dsimp only
    split <;> exact ⟨rfl, rfl⟩

theorem finish_speak (streaming : Streaming) :
    streaming.finish folding =
      streaming.vocative.speak folding [(streaming.display.finish folding).1] :=
  (address_speak { streaming with display := (streaming.display.finish folding).2 } _ []).symm

theorem feed_reading_nil (display : TextStream) (text : List Char) :
    (reading display text).feed folding [] = ([], reading display text) := by
  cases hexpose : display.expose_internal_ids with
  | true => simp [reading, TextStream.feed, hexpose]
  | false =>
      have hsplit := @TextStream.splitTrailing_eq [] _ (fun _ h => nomatch h)
        (TextStream.splitTrailing_idChars text)
      rw [List.nil_append] at hsplit
      simp [reading, TextStream.feed, hexpose, hsplit, Resolver.render, subIds, tokens, scanIds]

/-- **The responses of a final step.**  All that is yielded is what the salutation stream
says of the displayed pieces. -/
theorem onResponses_contents (display : TextStream) (chunks : List String) (text : List Char)
    (streaming : Streaming) (hdisplay : streaming.display = reading display text)
    (htools : streaming.tool_calls = []) :
    ∃ yielded after,
      streaming.onResponses folding (chunks.map contentMessage) = (yielded, .ok after) ∧
      after.tool_calls = [] ∧
      yielded ++ after.finish folding = streaming.vocative.speak folding
        (displayed folding (reading display text) (chunks.map String.toList)) := by
  induction chunks generalizing text streaming with
  | nil =>
      refine ⟨[], streaming, rfl, htools, ?_⟩
      rw [List.map_nil, displayed, ← hdisplay, List.nil_append]
      exact finish_speak streaming
  | cons chunk chunks ih =>
      by_cases hempty : chunk = ""
      case pos =>
        -- A response without content changes nothing.
        subst hempty
        have hresponse : streaming.onResponse folding (contentMessage "") = .ok ([], streaming) := by
          simp [Streaming.onResponse, contentMessage]
        obtain ⟨yielded, after, hresponses, hafter, hspeak⟩ := ih text streaming hdisplay htools
        refine ⟨yielded, after, ?_, hafter, ?_⟩
        · rw [List.map_cons, Streaming.onResponses, hresponse]
          simp [hresponses]
        · rw [hspeak, List.map_cons, displayed, String.toList_empty, feed_reading_nil,
            SelfVocativeStream.speak, if_pos rfl]
      case neg =>
        obtain ⟨part, hfeed, -, -⟩ := @feed_reading folding display text chunk.toList
        have hresponse : streaming.onResponse folding (contentMessage chunk) =
            .ok (Streaming.address folding { streaming with
              content_parts := streaming.content_parts ++ [chunk]
              display := reading display (text ++ chunk.toList) }
              (rendered folding display part)) := by
          simp [Streaming.onResponse, contentMessage, hempty, htools, hdisplay, hfeed]
        generalize hfed : ({ streaming with
          content_parts := streaming.content_parts ++ [chunk]
          display := reading display (text ++ chunk.toList) } : Streaming) = fed at hresponse
        have hkeeps := @address_keeps folding fed (rendered folding display part)
        obtain ⟨yielded, after, hresponses, hafter, hspeak⟩ := ih (text ++ chunk.toList) _
          (hkeeps.1.trans (by rw [← hfed])) (hkeeps.2.trans (by rw [← hfed, htools]))
        refine ⟨(fed.address folding (rendered folding display part)).1 ++ yielded, after, ?_,
          hafter, ?_⟩
        · rw [List.map_cons, Streaming.onResponses, hresponse]
          simp only [hresponses]
        · rw [List.append_assoc, hspeak, ← address_speak, List.map_cons, displayed, hfeed, ← hfed]

/-- The whole answer, as `run` computes it. -/
theorem runStep_content (content : String) :
    runStep folding loads localized_identity state (contentMessage content) =
      some (repairSelfVocative folding
        (rendered folding (stepDisplay folding loads localized_identity state) content.toList)
        (agentName localized_identity state)
        (stepVocative folding loads localized_identity state).speaker_address
        state.presentation_language) := by
  have hsame : Resolver.fromMessages loads
      (state.conversation ++ [(contentMessage content).modelDump]) state.presentation_values =
      Resolver.fromMessages loads state.conversation state.presentation_values := by
    rw [Resolver.fromMessages, List.foldl_append]
    rfl
  simp only [runStep, hsame]
  rfl

theorem reading_start :
    reading (stepDisplay folding loads localized_identity state) [] =
      stepDisplay folding loads localized_identity state := by
  simp only [reading, TextStream.splitTrailing, List.reverse_nil, List.takeWhile_nil, ite_self]
  rfl

/-- A final step yields what the salutation stream says of the displayed pieces. -/
theorem streamStep_contents (chunks : List String) :
    streamStep folding loads localized_identity state (chunks.map contentMessage) =
      ((stepVocative folding loads localized_identity state).speak folding
        (displayed folding (stepDisplay folding loads localized_identity state)
          (chunks.map String.toList)), .answered) := by
  have hreading := @reading_start folding loads localized_identity state
  obtain ⟨yielded, after, hresponses, hafter, hspeak⟩ := @onResponses_contents folding
    (stepDisplay folding loads localized_identity state) chunks []
    (Streaming.start folding loads localized_identity state) hreading.symm rfl
  rw [hreading] at hspeak
  simp only [streamStep, hresponses, hafter, List.isEmpty_nil, if_true, hspeak]

theorem shown_nil (display : TextStream) : shown folding display [] = [] := by
  cases hexpose : display.expose_internal_ids <;>
    simp [shown, rendered, released, hexpose, Resolver.render, subIds, tokens, scanIds,
      TextStream.splitTrailing]

/-- Parts that are all closed but the last one are searched for ids one by one. -/
theorem tokens_flatten (parts : List (List Char)) (last : List Char)
    (hclosed : ∀ part ∈ parts, Closed part) :
    tokens (parts.flatten ++ last) = (parts ++ [last]).flatMap tokens := by
  induction parts with
  | nil => simp
  | cons part parts ih =>
      obtain ⟨hpart, hparts⟩ := List.forall_mem_cons.mp hclosed
      rw [List.flatten_cons, List.append_assoc, tokens_append hpart, ih hparts]
      rfl

/-- What is spoken of the displayed pieces is the repaired answer exactly where the answer
is cut well. -/
theorem speak_displayed_iff (display : TextStream) (agent_name speaker_address : Option String)
    (language : String) (chunks : List (List Char)) :
    ((SelfVocativeStream.start agent_name speaker_address language).speak folding
        (displayed folding (reading display []) chunks)).flatten =
      repairSelfVocative folding (rendered folding display chunks.flatten) agent_name
        speaker_address language ↔
      TrimmedChunks folding agent_name display [] chunks := by
  have hwhole := @displayed_flatten folding display [] chunks
  rw [shown_nil, List.nil_append, List.nil_append] at hwhole
  have hpieces := @trimmedPieces_displayed_iff folding agent_name display [] chunks
    (by rw [shown_nil]; exact salutation?_nil)
  rw [← hpieces, shown_nil, ← hwhole]
  cases agent_name with
  | none =>
      -- Without a name there is nothing to repair.
      rw [speak_resolved rfl rfl, repairSelfVocative_eq]
      simp only [salutation?, selfVocativePrefixes, List.find?_nil, true_iff]
      exact trimmedPieces_of_none (fun _ => rfl) _
  | some agent_name => exact speak_eq_repair_iff rfl salutation?_nil _

/-- **The streamed answer and the collected answer.**  A final step streams the answer of
`run` exactly where the first chunk with which the shown text is greeted cuts it well. -/
theorem streamsAnswer_iff (chunks : List String) :
    StreamsAnswer folding loads localized_identity state chunks ↔
      TrimmedChunks folding (agentName localized_identity state)
        (stepDisplay folding loads localized_identity state) [] (chunks.map String.toList) := by
  have hjoin : (String.join chunks).toList = (chunks.map String.toList).flatten := by
    rw [String.toList_join, List.flatMap_def]
  have hstep := @streamStep_contents folding loads localized_identity state chunks
  have hreading := @reading_start folding loads localized_identity state
  rw [← speak_displayed_iff _ _ (stepVocative folding loads localized_identity state).speaker_address
    state.presentation_language, hreading, ← hjoin]
  constructor
  · intro h
    have hwhole := h.whole
    rw [hstep, runStep_content] at hwhole
    exact Option.some.inj hwhole
  · intro hspoken
    refine ⟨by rw [hstep], ?_, fun hexpose => ?_⟩
    · rw [hstep, runStep_content]
      exact congrArg some hspoken
    · obtain ⟨parts, last, hpieces, hparts, hclosed⟩ := @displayed_parts folding
        (stepDisplay folding loads localized_identity state) [] (chunks.map String.toList)
      have hreleased : released (stepDisplay folding loads localized_identity state) [] = [] := by
        simp [released, TextStream.splitTrailing]
      rw [hreleased, List.nil_append, List.nil_append, ← hjoin] at hparts
      refine ⟨parts ++ [last], by simpa using hparts, ?_, ?_⟩
      · rw [← hparts, tokens_flatten parts last (hclosed hexpose)]
      · rw [hstep, ← hpieces, hreading]

end Steps

/-- `str.casefold` of ASCII letters. -/
def asciiFolding : CaseFolding where
  fold c := [c.toLower]
  punctuation := by
    intro c hc
    simp only [List.mem_cons, List.not_mem_nil, or_false] at hc
    rcases hc with rfl | rfl | rfl | rfl <;> rfl

/-- A loop in English without entities, for the agent `Steward`. -/
def stewardState : LoopState := ⟨[], "en", false, []⟩

/-- `Steward, Hello.`, cut before the blank, is streamed with the blank. -/
theorem steward_not_streamed :
    ¬ StreamsAnswer asciiFolding (fun _ => none) [("en", "Steward")] stewardState
      ["Steward,", " Hello."] := by
  intro h
  have hstreamed : (streamStep asciiFolding (fun _ => none) [("en", "Steward")] stewardState
      (["Steward,", " Hello."].map contentMessage)).1.flatten = " Hello.".toList := by decide
  have hanswer : runStep asciiFolding (fun _ => none) [("en", "Steward")] stewardState
      (contentMessage (String.join ["Steward,", " Hello."])) = some "Hello.".toList := by decide
  have hwhole := h.whole
  rw [hstreamed, hanswer] at hwhole
  exact absurd hwhole (by decide)

end Runtime
end HomeCortex
