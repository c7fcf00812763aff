import RecordFilter.Text.Hex
import RecordFilter.Text.Pieces

/-!
# Query strings

The pieces of a raw query string that are filter expressions. Pieces stand between ampersands and are
percent-decoded; a plus sign stays. Pieces that assign a reserved parameter are left out.

* `QueryString.decode` decodes one piece; a piece whose bytes are no text stays as it is.
* `QueryString.isReserved` looks at what stands before the first equals sign.
-/

namespace RecordFilter.QueryString

/-- Parameters that never carry a filter: those of paging, sorting and projection. -/
def defaultReserved : List String :=
  ["page", "per_page", "limit", "offset", "sort", "order", "fields"]

/-- The bytes that a piece stands for. A percent sign and two hexadecimal digits are one byte, any
other percent sign is itself. -/
def bytes : List Char → List UInt8
  | [] => []
  | '%' :: a :: b :: rest =>
    match hexValue? a, hexValue? b with
    | some high, some low => UInt8.ofNat (16 * high + low) :: bytes rest
    | _, _ => String.utf8EncodeChar '%' ++ bytes (a :: b :: rest)
  | c :: rest => String.utf8EncodeChar c ++ bytes rest

/-- The text of a piece. -/
def decode (piece : String) : String :=
  (String.fromUTF8? ⟨(bytes piece.toList).toArray⟩).getD piece

/-- What stands before the first equals sign. -/
def key (piece : String) : String :=
  String.ofList (piece.toList.takeWhile (· ≠ '='))

/-- Whether a piece assigns a reserved parameter. -/
def isReserved (reserved : List String) (piece : String) : Bool :=
  reserved.contains (key piece)

/-- The query string without the question mark that may open it. -/
def body (query : String) : String :=
  match query.toList with
  | '?' :: rest => String.ofList rest
  | _ => query

/-- The filter expressions of a query string, in their order. -/
def tokens (reserved : List String) (query : String) : List String :=
  (((pieces '&' (body query)).filter (· ≠ "")).map decode).filter fun piece =>
    !isReserved reserved piece

end RecordFilter.QueryString
