import SceneMarkup.Json.Token

namespace SceneMarkup

/-!
# Reading JSON

Tokens are put together by a machine with a stack of containers in progress, so
the depth of a text never becomes depth of recursion.  A text with more open
containers at once than `Json.depthLimit` is refused, as is one that is not
exactly one value.
-/

namespace Json

/-- The greatest number of containers that may be open at once. -/
def depthLimit : Nat := 127

/-- Something in progress: an array with its items in reverse, an object with
its entries in reverse, or an entry that has its name and awaits its value. -/
inductive Frame where
  | array (reversed : List Json)
  | object (reversed : List (String × Json))
  | entry (name : String)

/-- What the next token may be. -/
inductive Awaits where
  | value
  | valueOrClose
  | name
  | nameOrClose
  | colon
  | commaOrClose
  | nothing (result : Json)

/-- The reader between two tokens. -/
structure ReadState where
  stack : List Frame
  depth : Nat
  awaits : Awaits

namespace ReadState

/-- The reader before the first token. -/
def start : ReadState := ⟨[], 0, .value⟩

/-- Take in a complete value. -/
def accept? (state : ReadState) (value : Json) : Option ReadState :=
  match state.stack with
  | [] => some ⟨[], state.depth, .nothing value⟩
  | .array reversed :: rest =>
      some ⟨.array (value :: reversed) :: rest, state.depth, .commaOrClose⟩
  | .entry name :: .object reversed :: rest =>
      some ⟨.object ((name, value) :: reversed) :: rest, state.depth, .commaOrClose⟩
  | _ => none

/-- Begin a container, unless too many are open. -/
def openContainer? (state : ReadState) (frame : Frame) (awaits : Awaits) : Option ReadState :=
  if state.depth < depthLimit then some ⟨frame :: state.stack, state.depth + 1, awaits⟩
  else none

/-- End the array on top of the stack. -/
def closeArray? (state : ReadState) : Option ReadState :=
  match state.stack with
  | .array reversed :: rest =>
      accept? ⟨rest, state.depth - 1, .value⟩ (.array reversed.reverse)
  | _ => none

/-- End the object on top of the stack. -/
def closeObject? (state : ReadState) : Option ReadState :=
  match state.stack with
  | .object reversed :: rest =>
      accept? ⟨rest, state.depth - 1, .value⟩ (.object reversed.reverse)
  | _ => none

/-- Take in a token where a value may begin. -/
def startValue? (state : ReadState) : JsonToken -> Option ReadState
  | .openObject => state.openContainer? (.object []) .nameOrClose
  | .openArray => state.openContainer? (.array []) .valueOrClose
  | .scalar value => state.accept? value
  | _ => none

/-- Take in a token where the name of an entry must stand. -/
def startEntry? (state : ReadState) : JsonToken -> Option ReadState
  | .scalar (.string name) => some ⟨.entry name :: state.stack, state.depth, .colon⟩
  | _ => none

/-- Take in the next token. -/
def step? (state : ReadState) (token : JsonToken) : Option ReadState :=
  match state.awaits, token with
  | .value, token => state.startValue? token
  | .valueOrClose, .closeArray => state.closeArray?
  | .valueOrClose, token => state.startValue? token
  | .name, token => state.startEntry? token
  | .nameOrClose, .closeObject => state.closeObject?
  | .nameOrClose, token => state.startEntry? token
  | .colon, .colon => some { state with awaits := .value }
  | .commaOrClose, .closeArray => state.closeArray?
  | .commaOrClose, .closeObject => state.closeObject?
  | .commaOrClose, .comma =>
      match state.stack with
      | .array _ :: _ => some { state with awaits := .value }
      | .object _ :: _ => some { state with awaits := .name }
      | _ => none
  | _, _ => none

end ReadState

/-- The value that a list of tokens stands for. -/
def ofTokens? (tokens : List JsonToken) : Option Json :=
  (tokens.foldlM ReadState.step? ReadState.start).bind fun state =>
    match state.awaits with
    | .nothing result => some result
    | _ => none

/-- Read a text that is exactly one JSON value. -/
def read? (text : String) : Option Json :=
  (JsonToken.scan? text.toList).bind ofTokens?

end Json
end SceneMarkup
