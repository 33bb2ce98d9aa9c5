/-
# Messages of HTTP/1.1

A message is a head, an empty line and a body.
-/
import Akson.Lib.Chunked
import Akson.Lib.Decimal
import Akson.Lib.Search

namespace Http

def blankLine : List UInt8 := [13, 10, 13, 10]

def fieldOf (line : String) : Option (String × String) :=
  (Text.splitOnce ':' line).map (fun field => (field.1, Text.trim field.2))

def fields (head : String) : List (String × String) := (Text.lines head).tail.filterMap fieldOf

def values (name head : String) : List String :=
  ((fields head).filter (fun field => Text.eqIgnoreAsciiCase field.1 name)).map Prod.snd

def isChunked (head : String) : Bool :=
  match (values "transfer-encoding" head).getLast? with
  | none => false
  | some codings => ((codings.toList.splitOn ',').getLast?.map
      (fun coding => Text.eqIgnoreAsciiCase (Text.trim (String.ofList coding)) "chunked")).getD false

def contentLength (head : String) : Option ℕ :=
  (values "content-length" head).findSome? (fun value => Decimal.readNat value.toList)

def BodyWhole (limit : ℕ) (head : String) (body : List UInt8) : Prop :=
  if isChunked head then Chunked.Terminated limit body
  else ∃ n, contentLength head = some n ∧ n ≤ body.length

/-- The message is complete. -/
def Whole (limit : ℕ) (message : List UInt8) : Prop :=
  ∃ head body, List.splitFirst blankLine message = some (Json.utf8 head.toList, body) ∧
    BodyWhole limit head body

end Http
