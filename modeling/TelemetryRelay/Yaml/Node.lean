import TelemetryRelay.Yaml.Scalar
import TelemetryRelay.Yaml.Tag

/-!
# From tokens to values

A value is a text, or a collection that begins and ends with tokens of its own.
What is missing where a value may stand is nothing.  An anchor gives the value
behind it a name under which an alias stands for it later; within that value
the alias stands for nothing yet.

No key of a table may occur twice.
-/

namespace TelemetryRelay
namespace Yaml

/-- What is left to be read, and what is known from what was read. -/
structure Reading where
  tokens : List Token
  /-- What handles of tags stand for. -/
  meanings : List (String × String)
  /-- The number of the anchor that a name belongs to. -/
  names : List (String × Nat)
  /-- The values of the anchors whose values are complete. -/
  values : List (Nat × Node)

/-- What stands in front of a value. -/
structure Properties where
  anchor : Option Nat
  /-- Beginning and ending of the name of the tag. -/
  tag : Option (String × String)

namespace Reading

def behind (reading : Reading) (tokens : List Token) : Reading :=
  { reading with tokens }

/-- The value that an alias stands for. -/
def aliased? (reading : Reading) (name : String) : Option Node :=
  (reading.names.lookup name).map fun number => (reading.values.lookup number).join

/-- Begin a value with an anchor. -/
def begin (reading : Reading) (name : String) (rest : List Token) : Nat × Reading :=
  let number := reading.names.length
  (number, { reading with tokens := rest, names := (name, number) :: reading.names })

/-- The value with such properties is complete. -/
def complete (reading : Reading) (properties : Properties) (value : Node) : Reading :=
  match properties.anchor with
  | none => reading
  | some number => { reading with values := (number, value) :: reading.values }

/-- The beginning and the ending of a tag's name.  A handle that has a closing
mark has to be known. -/
def tagName? (reading : Reading) (opening ending : String) : Option (String × String) :=
  match reading.meanings.lookup opening with
  | some meaning => some (meaning, ending)
  | none =>
      if opening = "!!" then some (commonKinds, ending)
      else if isClosed opening.toList then none
      else some (opening, ending)

/-- The anchor and the tag in front of a value, in either order. -/
def properties (reading : Reading) : Option (Properties × Reading) :=
  match reading.tokens with
  | .anchor name :: .tag opening ending :: rest => do
      let (number, begun) := reading.begin name rest
      return ({ anchor := some number, tag := some (<- reading.tagName? opening ending) }, begun)
  | .tag opening ending :: .anchor name :: rest => do
      let (number, begun) := reading.begin name rest
      return ({ anchor := some number, tag := some (<- reading.tagName? opening ending) }, begun)
  | .anchor name :: rest =>
      let (number, begun) := reading.begin name rest
      some ({ anchor := some number, tag := none }, begun)
  | .tag opening ending :: rest =>
      (reading.tagName? opening ending).map fun name =>
        ({ anchor := none, tag := some name }, reading.behind rest)
  | _ => some ({ anchor := none, tag := none }, reading)

end Reading

/-- The value of a plain text with such properties. -/
def plainValue (properties : Properties) (content : List Char) : Option Node :=
  match properties.tag with
  | some (beginning, ending) => demanded beginning ending content
  | none => (resolved content).map some

/-- The value that is missing behind properties.  Something has to be there if
there are none. -/
def missing (properties : Properties) : Option Node :=
  if properties.anchor.isSome || properties.tag.isSome then plainValue properties [] else none

def listOf (items : List Node) : Node :=
  some (.list (items.map fun item => item.getD .nothing))

/-- The name that a key stands for, and whether it is a number. -/
def nameOf? : Datum -> Option (String × Bool)
  | .text name => some (name, false)
  | .integer value => some (toString value, true)
  | _ => none

/-- The entries of keys and values that follow one another.  A value that is not
there is passed over where a key is due. -/
def entriesOf? (taken : List (String × Bool)) (due : Option Datum) :
    List Node -> Option (List (String × Datum))
  | [] => some []
  | node :: rest =>
      match due with
      | none => entriesOf? taken node rest
      | some key => do
          let name <- nameOf? key
          if taken.contains name then
            none
          else
            let later <- entriesOf? (name :: taken) none rest
            return (name.1, node.getD .nothing) :: later

def tableOf? (nodes : List Node) : Option Node :=
  (entriesOf? [] none nodes).map fun entries => some (Datum.ofMembers entries)

/-- Whether a token ends what stands behind a dash. -/
def endsItem : Token -> Bool
  | .item | .blockEnd => true
  | _ => false

/-- Whether a token ends a key or a value of a table without brackets. -/
def endsEntry : Token -> Bool
  | .key | .value | .blockEnd => true
  | _ => false

/-- Whether a token ends what stands behind a dash in the column of a key. -/
def endsLooseItem (token : Token) : Bool :=
  endsItem token || endsEntry token

/-- Whether a token ends an item of a list in brackets. -/
def endsFlowItem : Token -> Bool
  | .comma | .flowListEnd => true
  | _ => false

/-- Whether a token ends an entry of a table in brackets. -/
def endsFlowEntry : Token -> Bool
  | .comma | .flowTableEnd => true
  | _ => false

namespace Reading

def nextIs (reading : Reading) (accepts : Token -> Bool) : Bool :=
  (reading.tokens.head?.map accepts).getD false

mutual

/-- A value.  The flags say whether collections without brackets may begin here,
and whether the dashes of a list may be in the column of the key. -/
def node : (budget : Nat) -> (inBlock mayBeLoose : Bool) -> Reading -> Option (Node × Reading)
  | 0, _, _, _ => none
  | budget + 1, inBlock, mayBeLoose, reading =>
      match reading.tokens with
      | .alias name :: rest =>
          (reading.aliased? name).map fun value => (value, reading.behind rest)
      | _ => do
          let (properties, start) <- reading.properties
          let (value, last) <- content budget inBlock mayBeLoose properties start
          return (value, last.complete properties value)

def content : (budget : Nat) -> (inBlock mayBeLoose : Bool) -> Properties -> Reading ->
    Option (Node × Reading)
  | 0, _, _, _, _ => none
  | budget + 1, inBlock, mayBeLoose, properties, reading =>
      let absent := (missing properties).map fun value => (value, reading)
      match reading.tokens with
      | .text isPlain chars :: rest =>
          if isPlain then
            (plainValue properties chars).map fun value => (value, reading.behind rest)
          else some (some (.text (String.ofList chars)), reading.behind rest)
      | .flowListStart :: rest =>
          (flowItems budget true (reading.behind rest)).map fun (items, last) =>
            (listOf items, last)
      | .flowTableStart :: rest => do
          let (nodes, last) <- flowEntries budget true (reading.behind rest)
          return (<- tableOf? nodes, last)
      | .item :: _ =>
          if mayBeLoose then
            (looseItems budget reading).map fun (items, last) => (listOf items, last)
          else absent
      | .blockListStart :: rest =>
          if inBlock then
            (blockItems budget (reading.behind rest)).map fun (items, last) => (listOf items, last)
          else absent
      | .blockTableStart :: rest =>
          if inBlock then do
            let (nodes, last) <- blockEntries budget (reading.behind rest)
            return (<- tableOf? nodes, last)
          else absent
      | _ => absent

/-- A value, or nothing if a token ends it before it has begun. -/
def nodeOrNothing : (budget : Nat) -> (ends : Token -> Bool) -> (inBlock mayBeLoose : Bool) ->
    Reading -> Option (Node × Reading)
  | 0, _, _, _, _ => none
  | budget + 1, ends, inBlock, mayBeLoose, reading =>
      if reading.nextIs ends then some (some .nothing, reading)
      else node budget inBlock mayBeLoose reading

/-- The value behind a key, or nothing if none is announced. -/
def valueOrNothing : (budget : Nat) -> (ends : Token -> Bool) -> (inBlock : Bool) -> Reading ->
    Option (Node × Reading)
  | 0, _, _, _ => none
  | budget + 1, ends, inBlock, reading =>
      match reading.tokens with
      | .value :: rest => nodeOrNothing budget ends inBlock inBlock (reading.behind rest)
      | _ => some (some .nothing, reading)

/-- The rest of a list whose elements are marked by dashes. -/
def blockItems : (budget : Nat) -> Reading -> Option (List Node × Reading)
  | 0, _ => none
  | budget + 1, reading =>
      match reading.tokens with
      | .blockEnd :: rest => some ([], reading.behind rest)
      | .item :: rest => do
          let (head, next) <- nodeOrNothing budget endsItem true false (reading.behind rest)
          let (tail, last) <- blockItems budget next
          return (head :: tail, last)
      | _ => none

/-- The rest of a list whose dashes are in the column of the key it belongs to.
-/
def looseItems : (budget : Nat) -> Reading -> Option (List Node × Reading)
  | 0, _ => none
  | budget + 1, reading =>
      match reading.tokens with
      | .item :: rest => do
          let (head, next) <- nodeOrNothing budget endsLooseItem true false (reading.behind rest)
          let (tail, last) <- looseItems budget next
          return (head :: tail, last)
      | _ => some ([], reading)

/-- The rest of a table without brackets: keys and values by turns. -/
def blockEntries : (budget : Nat) -> Reading -> Option (List Node × Reading)
  | 0, _ => none
  | budget + 1, reading => do
      let entry (key : Node) (afterKey : Reading) : Option (List Node × Reading) := do
        let (value, next) <- valueOrNothing budget endsEntry true afterKey
        let (later, last) <- blockEntries budget next
        return (key :: value :: later, last)
      match reading.tokens with
      | .blockEnd :: rest => some ([], reading.behind rest)
      | .key :: rest =>
          let (key, afterKey) <- nodeOrNothing budget endsEntry true true (reading.behind rest)
          entry key afterKey
      | .value :: _ => entry (some .nothing) reading
      | _ => none

/-- The rest of a list in brackets. -/
def flowItems : (budget : Nat) -> (isFirst : Bool) -> Reading -> Option (List Node × Reading)
  | 0, _, _ => none
  | budget + 1, isFirst, reading =>
      match reading.tokens with
      | .flowListEnd :: rest => some ([], reading.behind rest)
      | .comma :: rest => if isFirst then none else flowItem budget (reading.behind rest)
      | _ => if isFirst then flowItem budget reading else none

/-- An item of a list in brackets and those behind it, or the end of the list.
A key with its value is a table of its own. -/
def flowItem : (budget : Nat) -> Reading -> Option (List Node × Reading)
  | 0, _ => none
  | budget + 1, reading => do
      let goOn (item : Node) (next : Reading) : Option (List Node × Reading) := do
        let (later, last) <- flowItems budget false next
        return (item :: later, last)
      match reading.tokens with
      | .flowListEnd :: rest => some ([], reading.behind rest)
      | .key :: rest =>
          let (key, afterKey) <- flowKey budget (reading.behind rest)
          let (value, next) <- valueOrNothing budget endsFlowItem false afterKey
          goOn (<- tableOf? [key, value]) next
      | _ =>
          let (item, next) <- node budget false false reading
          goOn item next

/-- The key of a table of its own in a list.  A token that stands in the place
of the key counts for nothing. -/
def flowKey : (budget : Nat) -> Reading -> Option (Node × Reading)
  | 0, _ => none
  | budget + 1, reading =>
      match reading.tokens with
      | .value :: rest => some (some .nothing, reading.behind rest)
      | .comma :: rest => some (some .nothing, reading.behind rest)
      | .flowListEnd :: rest => some (some .nothing, reading.behind rest)
      | _ => node budget false false reading

/-- The rest of a table in brackets: keys and values by turns. -/
def flowEntries : (budget : Nat) -> (isFirst : Bool) -> Reading -> Option (List Node × Reading)
  | 0, _, _ => none
  | budget + 1, isFirst, reading =>
      match reading.tokens with
      | .flowTableEnd :: rest => some ([], reading.behind rest)
      | .comma :: rest => if isFirst then none else flowEntry budget (reading.behind rest)
      | _ => if isFirst then flowEntry budget reading else none

/-- An entry of a table in brackets and those behind it, or the end of the
table.  A value that no key is announced for is a key without a value. -/
def flowEntry : (budget : Nat) -> Reading -> Option (List Node × Reading)
  | 0, _ => none
  | budget + 1, reading => do
      let goOn (key value : Node) (next : Reading) : Option (List Node × Reading) := do
        let (later, last) <- flowEntries budget false next
        return (key :: value :: later, last)
      match reading.tokens with
      | .flowTableEnd :: rest => some ([], reading.behind rest)
      | .key :: rest =>
          let ends (token : Token) : Bool := endsFlowEntry token || token == .value
          let (key, afterKey) <- nodeOrNothing budget ends false false (reading.behind rest)
          let (value, next) <- valueOrNothing budget endsFlowEntry false afterKey
          goOn key value next
      | .value :: _ =>
          let (value, next) <- valueOrNothing budget endsFlowEntry false reading
          goOn (some .nothing) value next
      | _ =>
          let (key, next) <- node budget false false reading
          goOn key (some .nothing) next

end

end Reading

end Yaml
end TelemetryRelay
