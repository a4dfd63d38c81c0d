import EvictionGate.Yaml.Token
import EvictionGate.Yaml.Value

/-!
# Documents

A text holds documents, one after another; each is one value. A value may be given a name
and meant again by it later on, but not within itself.

The readers of values and of lists and mappings call each other, and `fuel` bounds how
often: a reader that calls no token its own calls one that does.
-/

namespace EvictionGate.Yaml

/-- A value with its size: how deep lists and mappings stand in one another, and how often
a name has been followed. -/
structure Sized where
  value : Value
  depth : Nat
  jumps : Nat

instance : Inhabited Sized := ⟨⟨.null, 0, 0⟩⟩

/-- A value that holds no other. -/
def Sized.leaf (v : Value) : Sized := ⟨v, 0, 0⟩

/-- What is known while the tokens of a document are read: the names that have been given,
newest first, with nothing for a value that is not complete; what the handles of tags stand
for; and how many parts have been read. -/
structure Reading where
  tokens : List Token
  names : List (List Char × Option Sized)
  handles : List (List Char × List Char)
  parts : Nat

namespace Reading

/-- Goes on with other tokens. -/
def at_ (r : Reading) (tokens : List Token) : Reading := { r with tokens := tokens }

/-- One more part. -/
def count (r : Reading) : Reading := { r with parts := r.parts + 1 }

/-- Gives a value a name, if there is one. -/
def bind (r : Reading) (name : Option (List Char)) (v : Option Sized) : Reading :=
  match name with
  | some name => { r with names := (name, v) :: r.names }
  | none => r

/-- The text of a tag. -/
def tagText? (r : Reading) (handle suffix : List Char) : Option String :=
  if handle.isEmpty then some (String.ofList suffix)
  else (r.handles.lookup handle).map fun start => String.ofList (start ++ suffix)

end Reading

/-- What is said of a value before it: its name and its tag. -/
structure Remarks where
  name : Option (List Char)
  tag : Option String

/-- Reads a tag, if there is one. -/
def readTag? (r : Reading) : Option (Option String × Reading) :=
  match r.tokens with
  | .tag handle suffix :: rest => (r.tagText? handle suffix).map fun t => (some t, r.at_ rest)
  | _ => some (none, r)

/-- Reads what is said of a value: a name and a tag in either order. -/
def remarks? (r : Reading) : Option (Remarks × Reading) :=
  match r.tokens with
  | .anchor name :: rest => (readTag? (r.at_ rest)).map fun (tag, r) => (⟨some name, tag⟩, r)
  | _ => do
    let (tag, r) ← readTag? r
    match tag, r.tokens with
    | some _, .anchor name :: rest => some (⟨some name, tag⟩, r.at_ rest)
    | _, _ => some (⟨none, tag⟩, r)

/-- A list or a mapping with its tag. -/
def Remarks.mark (m : Remarks) (v : Value) : Value :=
  if m.tag.any fun t => t.toList.head? = some '!' then .tagged v else v

/-- A scalar with its name and its tag. The tag that is nothing but an exclamation mark
says nothing. -/
def scalar? (m : Remarks) (text : List Char) (isPlain : Bool) (r : Reading) :
    Option (Sized × Reading) :=
  (scalarValue? (m.tag.filter (· ≠ "!")) text isPlain).map fun v =>
    (.leaf v, (r.bind m.name (some (.leaf v))).count)

/-- A value that is left out. -/
def empty (r : Reading) : Sized × Reading := (.leaf .null, r.count)

/-- A list of values. -/
def listOf (vs : List Sized) : Sized :=
  ⟨.list (vs.map (·.value)), (vs.map (·.depth)).foldl max 0 + 1,
    (vs.map (·.jumps)).foldl (· + ·) 0⟩

/-- A mapping, if no two of its keys are the same. -/
def mapOf? (es : List (Sized × Sized)) : Option Sized :=
  let isNew (known : List Value) (k : Value) : Bool := !known.any (Value.same k)
  let keys? := es.foldlM (fun known (k, _) =>
    if isNew known k.value then some (k.value :: known) else none) []
  keys?.map fun _ =>
    let depth := es.foldl (fun n (k, v) => max n (max k.depth v.depth)) 0
    let jumps := es.foldl (fun n (k, v) => n + k.jumps + v.jumps) 0
    ⟨.map (es.map fun (k, v) => (k.value, v.value)), depth + 1, jumps⟩

/-- Whether the next token is one of some. -/
def nextIs (r : Reading) (ts : List Token) : Bool :=
  (r.tokens.head?.map ts.contains).getD false

mutual

/-- Reads a value. `isBlock` admits indented lists and mappings, `isLoose` a list that is
not indented deeper than the key it belongs to. -/
def value? (fuel : Nat) (isBlock isLoose : Bool) (r : Reading) : Option (Sized × Reading) :=
  match fuel with
  | 0 => none
  | fuel + 1 =>
    match r.tokens with
    | .alias name :: rest =>
      match r.names.lookup name with
      | some (some v) => some ({ v with jumps := v.jumps + 1 }, (r.at_ rest).count)
      | _ => none
    | _ =>
      match remarks? r with
      | none => none
      | some (m, r) =>
        let complete (v : Sized) (r : Reading) : Sized × Reading :=
          let v := { v with value := m.mark v.value }
          (v, (r.bind m.name (some v)).count.count)
        let opened := r.bind m.name none
        match r.tokens with
        | .scalar text isPlain :: rest => scalar? m text isPlain (r.at_ rest)
        | .item :: _ =>
          if isLoose then
            (looseItems? fuel opened).map fun (vs, r) => complete (listOf vs) r
          else if m.name.isSome || m.tag.isSome then scalar? m [] true r
          else none
        | .flowListStart :: rest =>
          (flowItems? fuel true (opened.at_ rest)).map fun (vs, r) => complete (listOf vs) r
        | .flowMapStart :: rest =>
          match flowEntries? fuel true (opened.at_ rest) with
          | some (es, r) => (mapOf? es).map (complete · r)
          | none => none
        | .listStart :: rest =>
          if isBlock then
            (blockItems? fuel (opened.at_ rest)).map fun (vs, r) => complete (listOf vs) r
          else if m.name.isSome || m.tag.isSome then scalar? m [] true r
          else none
        | .mapStart :: rest =>
          if isBlock then
            match blockEntries? fuel (opened.at_ rest) with
            | some (es, r) => (mapOf? es).map (complete · r)
            | none => none
          else if m.name.isSome || m.tag.isSome then scalar? m [] true r
          else none
        | _ => if m.name.isSome || m.tag.isSome then scalar? m [] true r else none

/-- Reads the items of an indented list. -/
def blockItems? (fuel : Nat) (r : Reading) : Option (List Sized × Reading) :=
  match fuel with
  | 0 => none
  | fuel + 1 =>
    match r.tokens with
    | .item :: rest =>
      let r := r.at_ rest
      let first? :=
        if nextIs r [.item, .blockEnd] then some (empty r) else value? fuel true false r
      match first? with
      | none => none
      | some (v, r) => (blockItems? fuel r).map fun (vs, r) => (v :: vs, r)
    | .blockEnd :: rest => some ([], r.at_ rest)
    | _ => none

/-- Reads the items of a list that is not indented deeper than its key. -/
def looseItems? (fuel : Nat) (r : Reading) : Option (List Sized × Reading) :=
  match fuel with
  | 0 => none
  | fuel + 1 =>
    match r.tokens with
    | .item :: rest =>
      let r := r.at_ rest
      let first? :=
        if nextIs r [.item, .key, .value, .blockEnd] then some (empty r)
        else value? fuel true false r
      match first? with
      | none => none
      | some (v, r) => (looseItems? fuel r).map fun (vs, r) => (v :: vs, r)
    | _ => some ([], r)

/-- Reads a part of an entry of an indented mapping after its sign. -/
def blockPart? (fuel : Nat) (r : Reading) : Option (Sized × Reading) :=
  match fuel with
  | 0 => none
  | fuel + 1 =>
    if nextIs r [.key, .value, .blockEnd] then some (empty r) else value? fuel true true r

/-- Reads the entries of an indented mapping. -/
def blockEntries? (fuel : Nat) (r : Reading) : Option (List (Sized × Sized) × Reading) :=
  match fuel with
  | 0 => none
  | fuel + 1 =>
    match r.tokens with
    | .key :: rest =>
      match blockPart? fuel (r.at_ rest) with
      | none => none
      | some (k, r) =>
        let value? := match r.tokens with
          | .value :: rest => blockPart? fuel (r.at_ rest)
          | _ => some (empty r)
        match value? with
        | none => none
        | some (v, r) => (blockEntries? fuel r).map fun (es, r) => ((k, v) :: es, r)
    | .blockEnd :: rest => some ([], r.at_ rest)
    | _ => none

/-- Reads what follows a colon in brackets or braces, if there is one. -/
def flowValue? (fuel : Nat) (ends : List Token) (r : Reading) : Option (Sized × Reading) :=
  match fuel with
  | 0 => none
  | fuel + 1 =>
    match r.tokens with
    | .value :: rest =>
      let r := r.at_ rest
      if nextIs r ends then some (empty r) else value? fuel false false r
    | _ => some (empty r)

/-- Reads the items of a list in brackets. An item may be a single entry of a mapping. -/
def flowItems? (fuel : Nat) (isFirst : Bool) (r : Reading) : Option (List Sized × Reading) :=
  match fuel with
  | 0 => none
  | fuel + 1 =>
    let next? := match r.tokens with
      | .flowListEnd :: _ => some r
      | .comma :: rest => if isFirst then some r else some (r.at_ rest)
      | _ => if isFirst then some r else none
    match next? with
    | none => none
    | some r =>
      match r.tokens with
      | .flowListEnd :: rest => some ([], r.at_ rest)
      | .key :: rest =>
        let r := r.at_ rest
        let key? :=
          if nextIs r [.value, .comma, .flowListEnd] then some (empty (r.at_ (r.tokens.drop 1)))
          else value? fuel false false r
        match key? with
        | none => none
        | some (k, r) =>
          match flowValue? fuel [.comma, .flowListEnd] r with
          | none => none
          | some (v, r) =>
            match mapOf? [(k, v)] with
            | none => none
            | some entry =>
              (flowItems? fuel false r.count.count).map fun (vs, r) => (entry :: vs, r)
      | _ =>
        match value? fuel false false r with
        | none => none
        | some (v, r) => (flowItems? fuel false r).map fun (vs, r) => (v :: vs, r)

/-- Reads the entries of a mapping in braces. An entry may have no value. -/
def flowEntries? (fuel : Nat) (isFirst : Bool) (r : Reading) :
    Option (List (Sized × Sized) × Reading) :=
  match fuel with
  | 0 => none
  | fuel + 1 =>
    let next? := match r.tokens with
      | .flowMapEnd :: _ => some r
      | .comma :: rest => if isFirst then some r else some (r.at_ rest)
      | _ => if isFirst then some r else none
    match next? with
    | none => none
    | some r =>
      let entry? := match r.tokens with
        | .key :: rest =>
          let r := r.at_ rest
          let key? :=
            if nextIs r [.value, .comma, .flowMapEnd] then some (empty r)
            else value? fuel false false r
          match key? with
          | none => none
          | some (k, r) =>
            (flowValue? fuel [.comma, .flowMapEnd] r).map fun (v, r) => ((k, v), r)
        | _ =>
          (value? fuel false false r).map fun (k, r) =>
            let (v, r) := empty r
            ((k, v), r)
      match r.tokens with
      | .flowMapEnd :: rest => some ([], r.at_ rest)
      | _ =>
        match entry? with
        | none => none
        | some (e, r) => (flowEntries? fuel false r).map fun (es, r) => (e :: es, r)

end

/-- How deep lists and mappings may stand in one another. -/
def maxDepth : Nat := 128

/-- How often names may be followed for every part of a document. -/
def maxJumps : Nat := 100

/-- The handles of tags that need no directive. -/
def coreHandles : List (List Char × List Char) :=
  [(['!'], ['!']), (['!', '!'], coreTag.toList)]

/-- Reads the directives before a document: at most one about the version, which has to be
known, and one about each handle. -/
def directives? : List Token → Option Bool → List (List Char × List Char) →
    Option (List (List Char × List Char) × List Token)
  | .version major minor :: rest, seen, handles =>
    if seen.isSome || major ≠ 1 || (minor ≠ 1 && minor ≠ 2) then none
    else directives? rest (some true) handles
  | .handle name start :: rest, seen, handles =>
    if (handles.lookup name).isSome then none
    else directives? rest seen ((name, start) :: handles)
  | tokens, _, handles => some (handles, tokens)

/-- Whether a token begins or ends a document. -/
def isBorder : Token → Bool
  | .version _ _ => true
  | .handle _ _ => true
  | .documentStart => true
  | .documentEnd => true
  | _ => false

/-- Reads the value of a document, which may be left out, and the mark after it. -/
def body? (handles : List (List Char × List Char)) (mayBeEmpty : Bool) (tokens : List Token) :
    Option (Value × List Token) :=
  let r : Reading := ⟨tokens, [], handles, 0⟩
  let isEmpty := mayBeEmpty && (tokens.head?.map isBorder).getD true
  let read? := if isEmpty then some (empty r) else value? (3 * tokens.length + 3) true false r
  match read? with
  | none => none
  | some (v, r) =>
    let rest := match r.tokens with
      | .documentEnd :: rest => rest
      | rest => rest
    if v.depth ≤ maxDepth && v.jumps ≤ maxJumps * r.parts then some (v.value, rest) else none

/-- Reads the documents that are left. Only the first needs no mark before it. -/
def documents? : Nat → Bool → List Token → Option (List Value)
  | 0, _, _ => none
  | fuel + 1, isFirst, tokens =>
    let tokens := if isFirst then tokens else tokens.dropWhile (· = .documentEnd)
    match tokens with
    | [] => some []
    | t :: _ =>
      let read? :=
        if isFirst && (t = .documentEnd || !isBorder t) then body? coreHandles false tokens
        else
          match directives? tokens none [] with
          | some (handles, .documentStart :: rest) =>
            let core := coreHandles.filter fun h => (handles.lookup h.1).isNone
            body? (handles ++ core) true rest
          | _ => none
      match read? with
      | none => none
      | some (v, rest) => (documents? fuel false rest).map (v :: ·)

/-- The values of the documents of a text. A text without any is one document that says
nothing. -/
def ofText? (text : List Char) : Option (List Value) :=
  match tokens? text with
  | none => none
  | some [] => some [.null]
  | some tokens => documents? (tokens.length + 1) true tokens

end EvictionGate.Yaml
