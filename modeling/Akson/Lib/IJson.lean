/-
# Strict reading of JSON texts

I-JSON (RFC 7493) on top of a reader of JSON texts.  What the reader finds is a `Reading`: the tree
as far as it goes, with the message of the reader wherever it stops.
-/
import Akson.Lib.Json

namespace Json

/-- What a deserializer meets, up to where it stops. -/
inductive Reading where
  | null
  | bool (b : Bool)
  /-- A number without fraction or exponent that fits 64 bits. -/
  | int (i : Int)
  /-- Any other number. -/
  | float (q : Rat)
  | str (s : String)
  /-- The elements read, and why reading stopped short of the bracket. -/
  | arr (xs : List Reading) (stop : Option String)
  | obj (fs : List (String × Reading)) (stop : Option String)
  | bad (message : String)

inductive IJsonError where
  | tooLarge (actual limit : ℕ)
  | tooDeep (limit : ℕ)
  | tooManyNodes (limit : ℕ)
  | duplicateKey (name : String)
  | unsafeInteger (value : String)
  | malformed (message : String)
deriving DecidableEq

def IJsonError.message (debugStr : String → String) : IJsonError → String
  | .tooLarge actual limit =>
    "input of " ++ toString actual ++ " bytes exceeds the " ++ toString limit ++ "-byte limit"
  | .tooDeep limit => "nesting exceeds the maximum depth of " ++ toString limit
  | .tooManyNodes limit => "document exceeds the maximum of " ++ toString limit ++ " nodes"
  | .duplicateKey name => "duplicate object key " ++ debugStr name
  | .unsafeInteger value => "number " ++ value ++ " is outside the I-JSON safe range"
  | .malformed message => "invalid JSON: " ++ message

def maxBytes : ℕ := 8 * 1024 * 1024

def maxDepth : ℕ := 64

def maxNodes : ℕ := 1000000

def maxSafeInteger : ℕ := 9007199254740991

def countNode (nodes : ℕ) : Except IJsonError ℕ :=
  if nodes + 1 > maxNodes then .error (.tooManyNodes maxNodes) else .ok (nodes + 1)

def insertMember (k : String) (v : Json) : List (String × Json) → List (String × Json)
  | [] => [(k, v)]
  | (l, w) :: fs => if k < l then (k, v) :: (l, w) :: fs else (l, w) :: insertMember k v fs

def ended (stop : Option String) : Except IJsonError Unit :=
  match stop with
  | none => .ok ()
  | some message => .error (.malformed message)

section Visit

variable (fmtFloat : Rat → String) (limit : ℕ)

mutual

def visit (depth nodes : ℕ) : Reading → Except IJsonError (Json × ℕ)
  | .null => do
    let nodes ← countNode nodes
    .ok (.null, nodes)
  | .bool b => do
    let nodes ← countNode nodes
    .ok (.bool b, nodes)
  | .int i => do
    let nodes ← countNode nodes
    if maxSafeInteger < i.natAbs then .error (.unsafeInteger (toString i))
    else .ok (.num i, nodes)
  | .float q => do
    let nodes ← countNode nodes
    -- an integer too long for 64 bits arrives here, rounded
    if q.den = 1 ∧ maxSafeInteger < q.num.natAbs then .error (.unsafeInteger (fmtFloat q))
    else .ok (.num q, nodes)
  | .str s => do
    let nodes ← countNode nodes
    .ok (.str s, nodes)
  | .arr xs stop => do
    let nodes ← countNode nodes
    if limit ≤ depth then .error (.tooDeep limit)
    else do
      let (items, nodes) ← visitElems (depth + 1) nodes xs
      ended stop
      .ok (.arr items, nodes)
  | .obj fs stop => do
    let nodes ← countNode nodes
    if limit ≤ depth then .error (.tooDeep limit)
    else do
      let (members, nodes) ← visitMembers (depth + 1) nodes [] fs
      ended stop
      .ok (.obj members, nodes)
  | .bad message => do
    let _ ← countNode nodes
    .error (.malformed message)

def visitElems (depth nodes : ℕ) : List Reading → Except IJsonError (List Json × ℕ)
  | [] => .ok ([], nodes)
  | x :: xs => do
    let (item, nodes) ← visit depth nodes x
    let (items, nodes) ← visitElems depth nodes xs
    .ok (item :: items, nodes)

def visitMembers (depth nodes : ℕ) (seen : List (String × Json)) :
    List (String × Reading) → Except IJsonError (List (String × Json) × ℕ)
  | [] => .ok (seen, nodes)
  | (k, x) :: fs => do
    let (v, nodes) ← visit depth nodes x
    if seen.any (fun f => f.1 = k) then .error (.duplicateKey k)
    else visitMembers depth nodes (insertMember k v seen) fs

end

end Visit

def parseWithLimits (fmtFloat : Rat → String) (read : List UInt8 → Reading × Option String)
    (bytes : List UInt8) (byteLimit depthLimit : ℕ) : Except IJsonError Json :=
  let byteLimit := min byteLimit maxBytes
  let depthLimit := min depthLimit maxDepth
  if bytes.length > byteLimit then .error (.tooLarge bytes.length byteLimit)
  else do
    let (reading, trailing) := read bytes
    let (value, _) ← visit fmtFloat depthLimit 0 0 reading
    ended trailing
    .ok value

def parse (fmtFloat : Rat → String) (read : List UInt8 → Reading × Option String)
    (bytes : List UInt8) : Except IJsonError Json :=
  parseWithLimits fmtFloat read bytes maxBytes maxDepth

end Json
