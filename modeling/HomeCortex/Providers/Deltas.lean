/-
# Deltas of an answer

What a server of chat completions sends: the message as a whole, in a body, or cut into
deltas.  The fragments that a stream collects from the pieces of tool calls are the pieces of
each index joined (`lookup_addPieces`), so that the calls at its end are those of the body, in
the order of their indices (`finished_eq_complete`).
-/

import HomeCortex.Library.Checked
import HomeCortex.Providers.Completions

namespace HomeCortex
namespace Providers

/-- One piece of a tool call; a text that is not sent is empty. -/
structure ToolPiece where
  index : Nat
  id : String
  name : String
  arguments : String

/-- One delta: a piece of content and pieces of tool calls. -/
structure Delta where
  content : String
  tool_calls : List ToolPiece

/-- A tool call of a message, its arguments as a text. -/
structure ToolCall where
  id : String
  name : String
  arguments : String

/-- A message of the assistant. -/
structure AssistantMessage where
  content : String
  tool_calls : List ToolCall

/-! ### Their JSON -/

/-- A field holds a text; an empty one may be null or missing. -/
def HasText (fields : Fields) (key text : String) : Prop :=
  fields.getD key = .str text ∨ (text = "" ∧ fields.getD key = .null)

/-- A field holds a list of objects; an empty one may be null or missing. -/
def HasObjects (fields : Fields) (key : String) (objects : List Fields) : Prop :=
  fields.getD key = .arr (objects.map .obj) ∨ (objects = [] ∧ fields.getD key = .null)

/-- An item of `tool_calls` in a delta. -/
def IsPiece (item : Fields) (piece : ToolPiece) : Prop :=
  item.getD "index" = .int piece.index ∧ HasText item "id" piece.id ∧
    ∃ function, item.getD "function" = .obj function ∧ HasText function "name" piece.name ∧
      HasText function "arguments" piece.arguments

/-- The object of a delta. -/
def CarriesDelta (fields : Fields) (delta : Delta) : Prop :=
  HasText fields "content" delta.content ∧ ∃ items, HasObjects fields "tool_calls" items ∧
    List.Forall₂ IsPiece items delta.tool_calls

/-- An event that carries a delta. -/
def IsDelta (payload : Fields) (delta : Delta) : Prop :=
  ∃ first others fields, payload.getD "choices" = .arr (.obj first :: others) ∧
    Fields.getD first "delta" = .obj fields ∧ CarriesDelta fields delta

/-- An item of `tool_calls` in a message. -/
def IsToolCall (item : Fields) (call : ToolCall) : Prop :=
  HasText item "id" call.id ∧
    ∃ function, item.getD "function" = .obj function ∧ HasText function "name" call.name ∧
      HasText function "arguments" call.arguments

/-- The body of a response that carries a message. -/
def IsBody (body : Fields) (message : AssistantMessage) : Prop :=
  ∃ first others fields items, body.getD "choices" = .arr (.obj first :: others) ∧
    Fields.getD first "message" = .obj fields ∧ HasText fields "content" message.content ∧
    HasObjects fields "tool_calls" items ∧ List.Forall₂ IsToolCall items message.tool_calls

theorem HasText.textOr {fields : Fields} {key text : String} (h : HasText fields key text) :
    textOr (fields.getD key) = text := by
  rcases h with h | ⟨rfl, h⟩
  · rw [h, Providers.textOr, Json.truthy]
    by_cases hempty : text = "" <;> simp [hempty, Json.pyStr]
  · rw [h]
    rfl

/-- What a field with a text says where it is read only when it says something. -/
theorem HasText.truthy {fields : Fields} {key text : String} (h : HasText fields key text) :
    (fields.getD key).truthy = true ↔ text ≠ "" := by
  rcases h with h | ⟨rfl, h⟩
  · rw [h, Json.truthy]
    simp
  · rw [h, Json.truthy]
    simp

theorem HasText.pyStr {fields : Fields} {key text : String} (h : HasText fields key text)
    (hne : text ≠ "") : (fields.getD key).pyStr = text := by
  rcases h with h | ⟨rfl, -⟩
  · rw [h]
    rfl
  · exact absurd rfl hne

/-- The objects of `value or []`. -/
theorem HasObjects.mappingsOr {fields : Fields} {key : String} {objects : List Fields}
    (h : HasObjects fields key objects) : mappingsOr (fields.getD key) = .ok objects := by
  rcases h with h | ⟨rfl, h⟩
  · rw [h, Providers.mappingsOr]
    cases objects with
    | nil => rfl
    | cons object objects =>
        rw [if_pos (by simp [Json.truthy]), mappings, List.filterMap_map]
        exact congrArg Except.ok List.filterMap_some
  · rw [h]
    rfl

/-! ### Cutting a message -/

/-- The pieces of tool calls of some deltas. -/
def piecesOf (deltas : List Delta) : List ToolPiece := deltas.flatMap Delta.tool_calls

/-- The pieces of one call: id and name come in the first. -/
def CutsCall (call : ToolCall) (pieces : List ToolPiece) : Prop :=
  ∃ first rest, pieces = first :: rest ∧ first.id = call.id ∧ first.name = call.name ∧
    (∀ piece ∈ rest, piece.id = "" ∧ piece.name = "") ∧
    String.join (pieces.map ToolPiece.arguments) = call.arguments

/-- The deltas of a message, the pieces of its calls in any interleaving. -/
structure Cuts (message : AssistantMessage) (deltas : List Delta) : Prop where
  content : String.join (deltas.map Delta.content) = message.content
  calls : ∀ index call, message.tool_calls[index]? = some call →
    CutsCall call ((piecesOf deltas).filter fun piece => piece.index = index)
  index : ∀ piece ∈ piecesOf deltas, piece.index < message.tool_calls.length

/-! ### Collecting pieces -/

/-- `Fragment.extend` by a piece. -/
def Fragment.add (fragment : Fragment) (piece : ToolPiece) : Fragment where
  id := if piece.id = "" then fragment.id else piece.id
  name := if piece.name = "" then fragment.name else piece.name
  arguments := fragment.arguments ++ piece.arguments

theorem Fragment.extend_eq {item : Fields} {piece : ToolPiece} (h : IsPiece item piece)
    (fragment : Fragment) : fragment.extend item = fragment.add piece := by
  obtain ⟨-, hid, function, hfunction, hname, harguments⟩ := h
  have hid' : (if (item.getD "id").truthy then (item.getD "id").pyStr else fragment.id) =
      if piece.id = "" then fragment.id else piece.id := by
    by_cases hempty : piece.id = ""
    · rw [if_pos hempty, if_neg fun htrue => hid.truthy.mp htrue hempty]
    · rw [if_neg hempty, if_pos (hid.truthy.mpr hempty), hid.pyStr hempty]
  have hname' : (if (Fields.getD function "name").truthy then
      (Fields.getD function "name").pyStr else fragment.name) =
        if piece.name = "" then fragment.name else piece.name := by
    by_cases hempty : piece.name = ""
    · rw [if_pos hempty, if_neg fun htrue => hname.truthy.mp htrue hempty]
    · rw [if_neg hempty, if_pos (hname.truthy.mpr hempty), hname.pyStr hempty]
  rw [Fragment.add, ← hid', ← hname', Fragment.extend, hfunction]
  dsimp only
  rw [harguments.textOr]
  split <;> rfl

/-- Adding pieces without an id and a name. -/
theorem Fragment.foldl_add {rest : List ToolPiece}
    (h : ∀ piece ∈ rest, piece.id = "" ∧ piece.name = "") (fragment : Fragment) :
    rest.foldl Fragment.add fragment = { fragment with
      arguments := fragment.arguments ++ String.join (rest.map ToolPiece.arguments) } := by
  induction rest generalizing fragment with
  | nil => simp
  | cons piece rest ih =>
      obtain ⟨⟨hid, hname⟩, hrest⟩ := List.forall_mem_cons.mp h
      rw [List.foldl_cons, ih hrest, Fragment.add, if_pos hid, if_pos hname, List.map_cons,
        String.join_cons, String.append_assoc]

/-- **The pieces of a call** make its fragment. -/
theorem CutsCall.foldl_add {call : ToolCall} {pieces : List ToolPiece} (h : CutsCall call pieces) :
    pieces.foldl Fragment.add .empty = ⟨call.id, call.name, call.arguments⟩ := by
  obtain ⟨first, rest, rfl, hid, hname, hrest, harguments⟩ := h
  rw [List.foldl_cons, Fragment.foldl_add hrest, ← hid, ← hname, ← harguments, List.map_cons,
    String.join_cons]
  simp only [Fragment.add, Fragment.empty, String.empty_append]
  congr 1
  · exact ite_eq_right_iff.mpr Eq.symm
  · exact ite_eq_right_iff.mpr Eq.symm

/-- `addPiece` by a piece. -/
def addTo (fragments : Fragments) (piece : ToolPiece) : Fragments :=
  fragments.insert piece.index
    (Fragment.add ((fragments.lookup (piece.index : Int)).getD .empty) piece)

theorem addPiece_eq (data : UnicodeData) {item : Fields} {piece : ToolPiece}
    (h : IsPiece item piece) (fragments : Fragments) :
    addPiece data fragments item = .ok (addTo fragments piece) := by
  have hindex : indexOf data (item.getD "index") = .ok (piece.index : Int) := by
    rw [h.1, indexOf, Json.truthy]
    by_cases hzero : piece.index = 0 <;> simp [hzero]
  rw [addPiece, hindex, addTo, ← Fragment.extend_eq h]
  rfl

theorem addPieces_eq (data : UnicodeData) {items : List Fields} {pieces : List ToolPiece}
    (h : List.Forall₂ IsPiece items pieces) (fragments : Fragments) :
    items.foldlM (addPiece data) fragments = .ok (pieces.foldl addTo fragments) := by
  induction h generalizing fragments with
  | nil => rfl
  | cons hpiece _ ih =>
      rw [List.foldlM_cons, addPiece_eq data hpiece, List.foldl_cons, ← ih]
      rfl

/-- **Index by index** the pieces are added to what was there. -/
theorem lookup_addPieces (pieces : List ToolPiece) (fragments : Fragments) (index : Int) :
    (pieces.foldl addTo fragments).lookup index =
      let mine := pieces.filter fun piece => (piece.index : Int) = index
      if mine = [] then fragments.lookup index
      else some (mine.foldl Fragment.add ((fragments.lookup index).getD Fragment.empty)) := by
  induction pieces generalizing fragments with
  | nil => rfl
  | cons piece pieces ih =>
      dsimp only at ih ⊢
      rw [List.foldl_cons, ih]
      by_cases hindex : (piece.index : Int) = index
      · subst hindex
        rw [List.filter_cons_of_pos (by simp), if_neg (List.cons_ne_nil _ _), addTo,
          AList.lookup_insert, List.foldl_cons]
        split
        case isTrue hnil => rw [hnil]; rfl
        case isFalse => rfl
      · rw [List.filter_cons_of_neg (by simpa using hindex), addTo,
          AList.lookup_insert_ne (Ne.symm hindex)]

section Finished

variable {message : AssistantMessage} {deltas : List Delta} (hcuts : Cuts message deltas)

include hcuts

/-- The fragment of each call, at its index. -/
theorem Cuts.lookup (index : Nat) : ((piecesOf deltas).foldl addTo ∅).lookup (index : Int) =
    message.tool_calls[index]?.map fun call => ⟨call.id, call.name, call.arguments⟩ := by
  have hfilter : ((piecesOf deltas).filter fun piece => (piece.index : Int) = (index : Int)) =
      (piecesOf deltas).filter fun piece => piece.index = index :=
    List.filter_congr fun piece _ => by simp
  rw [lookup_addPieces, hfilter, AList.lookup_empty]
  dsimp only
  cases hcall : message.tool_calls[index]? with
  | some call =>
      have hcut := hcuts.calls index call hcall
      rw [if_neg, Option.getD_none, hcut.foldl_add, Option.map_some]
      obtain ⟨first, rest, hpieces, -⟩ := hcut
      rw [hpieces]
      exact List.cons_ne_nil _ _
  | none =>
      rw [if_pos, Option.map_none]
      refine List.filter_eq_nil_iff.mpr fun piece hpiece hindex => ?_
      have hlt := hcuts.index piece hpiece
      rw [of_decide_eq_true hindex] at hlt
      exact absurd (List.getElem?_eq_none_iff.mp hcall) (by omega)

/-- The indices of the fragments, in order. -/
theorem Cuts.keys : ((piecesOf deltas).foldl addTo ∅).keys.insertionSort (· ≤ ·) =
    (List.range message.tool_calls.length).map Int.ofNat := by
  have hrange : ((List.range message.tool_calls.length).map Int.ofNat).Pairwise (· ≤ ·) :=
    List.pairwise_map.mpr (List.pairwise_lt_range.imp fun hlt => by
      rename_i a b
      show (a : Int) ≤ (b : Int)
      omega)
  have hnodup : ((List.range message.tool_calls.length).map Int.ofNat).Nodup :=
    List.nodup_range.map Int.ofNat_injective
  refine List.Perm.eq_of_pairwise' (List.pairwise_insertionSort _ _) hrange ?_
  refine (List.perm_insertionSort _ _).trans
    ((List.perm_ext_iff_of_nodup (AList.keys_nodup _) hnodup).mpr fun index => ?_)
  rw [← AList.mem_keys, ← AList.lookup_isSome, List.mem_map]
  constructor
  · intro hsome
    obtain ⟨piece, hpiece, rfl⟩ : ∃ piece ∈ piecesOf deltas, (piece.index : Int) = index := by
      rw [lookup_addPieces] at hsome
      dsimp only at hsome
      split at hsome
      case isTrue => cases hsome
      case isFalse hne =>
        obtain ⟨piece, hpiece⟩ := List.exists_mem_of_ne_nil _ hne
        obtain ⟨hmem, hindex⟩ := List.mem_filter.mp hpiece
        exact ⟨piece, hmem, of_decide_eq_true hindex⟩
    exact ⟨piece.index, List.mem_range.mpr (hcuts.index piece hpiece), rfl⟩
  · rintro ⟨index, hindex, rfl⟩
    show (AList.lookup (index : Int) _).isSome = true
    rw [hcuts.lookup, Option.isSome_map, List.getElem?_eq_getElem (List.mem_range.mp hindex)]
    rfl

end Finished

/-! ### The whole message -/

variable (floats : FloatFormat)

/-- What `_chat_response` makes of a tool call. -/
def ToolCall.function (call : ToolCall) : Except PyError ChatFunction := do
  return ⟨call.name, ← jsonArguments floats (.str call.arguments)⟩

/-- What `_chat_response` makes of some tool calls. -/
def functionsOf (calls : List ToolCall) : Except PyError (Option (List ChatFunction)) :=
  match calls with
  | [] => .ok none
  | calls => (calls.mapM (ToolCall.function floats)).map some

/-- The arguments of a call, of which an empty text may be missing. -/
theorem jsonArguments_hasText {fields : Fields} {key text : String} (h : HasText fields key text) :
    jsonArguments floats (fields.getD key) = jsonArguments floats (.str text) := by
  rcases h with h | ⟨rfl, h⟩
  · rw [h]
  · rw [h]
    rfl

theorem chatFunction_eq {item : Fields} {call : ToolCall} (h : IsToolCall item call) :
    chatFunction floats item = call.function floats := by
  obtain ⟨-, function, hfunction, hname, harguments⟩ := h
  have hcalled : calledFunction item = .ok function := by rw [calledFunction, hfunction]
  rw [chatFunction, hcalled, ToolCall.function, ← jsonArguments_hasText floats harguments,
    ← hname.textOr]
  rfl

theorem chatFunctions_objects {items : List Fields} {calls : List ToolCall}
    (h : List.Forall₂ IsToolCall items calls) :
    items.mapM (chatFunction floats) = calls.mapM (ToolCall.function floats) := by
  induction h with
  | nil => rfl
  | cons hcall _ ih => rw [List.mapM_cons, List.mapM_cons, chatFunction_eq floats hcall, ih]

/-- The tool calls of a message, in its JSON. -/
theorem chatFunctions_eq {value : Json} {items : List Fields} {calls : List ToolCall}
    (hvalue : value = .arr (items.map .obj) ∨ (items = [] ∧ value = .null))
    (h : List.Forall₂ IsToolCall items calls) :
    chatFunctions floats value = functionsOf floats calls := by
  have hmapM := chatFunctions_objects floats h
  rcases hvalue with rfl | ⟨rfl, rfl⟩
  · cases h with
    | nil => rfl
    | cons hcall hcalls =>
        rw [chatFunctions, if_pos (by simp [Json.truthy]), mappings, List.filterMap_map]
        simp only [Json.asObject?, Function.comp_def, List.filterMap_some]
        show Except.bind (List.mapM (chatFunction floats) _) _ = _
        rw [hmapM, functionsOf]
        · cases List.mapM (ToolCall.function floats) _ <;> rfl
        · exact fun hnil => absurd hnil (List.cons_ne_nil _ _)
  · cases h
    rfl

/-- **A whole message.** -/
theorem complete_eq (model : String) {body : Fields} {message : AssistantMessage}
    (h : IsBody body message) : complete floats model body =
      (functionsOf floats message.tool_calls).map fun functions =>
        ⟨model, message.content, functions⟩ := by
  obtain ⟨first, others, fields, items, hchoices, hmessage, hcontent, hitems, hcalls⟩ := h
  have hchoice : choiceMessage body = .ok fields := by
    rw [choiceMessage, hchoices]
    dsimp only
    rw [hmessage]
  rw [complete, hchoice]
  show chatResponse floats model (Fields.getD fields "content")
    (Fields.getD fields "tool_calls") = _
  rw [chatResponse, chatFunctions_eq floats hitems hcalls]
  rcases hcontent with hkey | ⟨hempty, hkey⟩
  · rw [hkey]
    rfl
  · rw [hkey, hempty]
    rfl

/-- The items of a list at its indices. -/
theorem filterMap_range {α β : Type} (f : α → β) (xs : List α) :
    (List.range xs.length).filterMap (fun index => xs[index]?.map f) = xs.map f := by
  induction xs with
  | nil => rfl
  | cons x xs ih =>
      rw [List.length_cons, List.range_succ_eq_map, List.filterMap_cons, List.filterMap_map,
        List.map_cons, ← ih]
      rfl

/-- A tool call as it is collected. -/
theorem isToolCall_asCall (call : ToolCall) : ∃ item,
    Fragment.asCall ⟨call.id, call.name, call.arguments⟩ = .obj item ∧ IsToolCall item call :=
  ⟨_, rfl, .inl rfl, _, rfl, .inl rfl, .inl rfl⟩

/-- **The collected calls** are those of the whole message. -/
theorem finished_eq (model : String) {message : AssistantMessage} {deltas : List Delta}
    (h : Cuts message deltas) :
    finished floats model ((piecesOf deltas).foldl addTo ∅) =
      (functionsOf floats message.tool_calls).map fun functions =>
        functions.map fun calls => ⟨model, "", some calls⟩ := by
  choose item hitem hcall using isToolCall_asCall
  have hitems : (((piecesOf deltas).foldl addTo ∅).keys.insertionSort (· ≤ ·)).filterMap
      (fun index => (((piecesOf deltas).foldl addTo ∅).lookup index).map Fragment.asCall) =
        (message.tool_calls.map item).map .obj := by
    rw [h.keys, List.filterMap_map, List.map_map, ← filterMap_range]
    refine List.filterMap_congr fun index _ => ?_
    rw [Function.comp_apply, Int.ofNat_eq_natCast, h.lookup, Option.map_map]
    exact congrArg (Option.map · _) (funext hitem)
  have hcalls : List.Forall₂ IsToolCall (message.tool_calls.map item) message.tool_calls :=
    List.forall₂_map_left_iff.mpr (List.forall₂_same.mpr fun call _ => hcall call)
  have hfunctions := chatFunctions_eq floats (.inl rfl) hcalls
  rw [finished, hitems]
  cases hempty : message.tool_calls with
  | nil => rfl
  | cons call calls =>
      rw [hempty] at hfunctions
      rw [if_neg (by simp), chatResponse, hfunctions, functionsOf]
      · cases List.mapM (ToolCall.function floats) _ <;> rfl
      · exact fun hnil => absurd hnil (List.cons_ne_nil _ _)

end Providers
end HomeCortex
