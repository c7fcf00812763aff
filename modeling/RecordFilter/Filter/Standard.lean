import RecordFilter.Filter.Basic

/-!
# The standard operators

Levels are such that a syntax that is the start of another, or whose operands are looser, is tried
after it: `gt` after `gte`, `lt` after `lte`, `ne` and `eq` after the ranges and lists. The operands of
`ne` and `eq` do not start with a bracket or a brace, so that a malformed range or list is never taken
for a plain comparison.

A field is made of ASCII letters and digits, points, underscores and hyphens.
-/

namespace RecordFilter.Operator

/-- The characters of field names. -/
def fieldClass : CharClass :=
  ⟨false, [('-', '.'), ('0', '9'), ('A', 'Z'), ('_', '_'), ('a', 'z')]⟩

/-- The ten digits. -/
def digitClass : CharClass := ⟨false, [('0', '9')]⟩

/-- A field, a delimiter, and operands of the given form up to the end. -/
def syntaxPattern (delimiter : String) (operands : List Pattern) : Pattern :=
  .all ([.start, .group 1 (.run1 fieldClass), .literal delimiter] ++ operands ++ [.stop])

/-- Any text as the operand. -/
def anyText : List Pattern := [.group 2 (.run .all)]

/-- A text that does not start with a bracket or a brace. -/
def plainText : List Pattern :=
  [.group 2 (.optional (.seq (.one (.except ['[', '\x7b'])) (.run .all)))]

/-- Two numbers of digits in brackets. -/
def bounds : List Pattern :=
  [.literal "[", .group 2 (.run1 digitClass), .literal ";", .group 3 (.run1 digitClass), .literal "]"]

/-- Values in braces. -/
def values : List Pattern :=
  [.literal "\x7b", .group 2 (.run1 .all), .literal "\x7d"]

/-- An operator that compares with one value. -/
def comparing (name : String) (level : Nat) (delimiter : String) (operands : List Pattern)
    (comparison : Comparison) : Operator :=
  ⟨name, level, "field" ++ delimiter ++ "value", syntaxPattern delimiter operands, .scalar,
    .compare comparison⟩

/-- `field>=value`. -/
def gte : Operator := comparing "gte" 1 ">=" anyText .ge

/-- `field<=value`. -/
def lte : Operator := comparing "lte" 2 "<=" anyText .le

/-- `field>value`. -/
def gt : Operator := comparing "gt" 3 ">" anyText .gt

/-- `field<value`. -/
def lt : Operator := comparing "lt" 4 "<" anyText .lt

/-- `field=[lo;hi]`. -/
def between : Operator :=
  ⟨"between", 5, "field=[lo;hi]", syntaxPattern "=" bounds, .pair, .between⟩

/-- `field!=[lo;hi]`. -/
def notBetween : Operator :=
  ⟨"not_between", 6, "field!=[lo;hi]", syntaxPattern "!=" bounds, .pair, .notBetween⟩

/-- The field differs from all values of a list. -/
def notIn : Operator :=
  ⟨"not_in", 7, "field!=\x7bv1;v2;...\x7d", syntaxPattern "!=" values, .list, .notIn⟩

/-- `field~pattern`. -/
def like : Operator :=
  ⟨"like", 8, "field~pattern", syntaxPattern "~" anyText, .scalar, .like⟩

/-- The field equals a value of a list. -/
def isIn : Operator :=
  ⟨"in", 9, "field=\x7bv1;v2;...\x7d", syntaxPattern "=" values, .list, .isIn⟩

/-- `field!=value`. -/
def ne : Operator := comparing "ne" 10 "!=" plainText .ne

/-- `field=value`. -/
def eq : Operator := comparing "eq" 11 "=" plainText .eq

/-- The standard operators. -/
def standard : List Operator :=
  [gte, lte, gt, lt, between, notBetween, notIn, like, isIn, ne, eq]

end RecordFilter.Operator
