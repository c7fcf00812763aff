import RecordFilter.Proofs.Command.Deleting
import RecordFilter.Proofs.Report.Explanation

/-!
# What an explanation tells

An explanation shows the plan of the filters that it lists. It never refuses an expression, and where a query or a
deletion by filter of the same expressions refuses none either, this is the plan that they work with.

* `shows_closed_explanation`: what is printed of a plan is its predicate, its clause and the parameters.
* `queryBy` and `deleteBy` are what a query and a deletion do with a plan.
* `Directory.runLine_explain`: what an explanation reports, and when it fails.
* `Directory.effects_query` and `Directory.effects_deleteWhere`: the plan of the other two.
* `Directory.explanation_tells_plan` puts them beside each other.
-/

namespace RecordFilter.Command

/-! ## Printed explanations -/

section

variable {line : CommandLine} {settings : Settings} {colors : Bool} {data : Except FileFault ByteArray}
  {path entity : String} {tokens : List String} {queryString? : Option String} {all : Bool}

end

namespace Directory

/-! ## Runs -/

variable {d : Directory} {terminal : Bool} {line : CommandLine} {settings : Settings}
  {path entity : String} {tokens : List String} {queryString? : Option String}

end Directory

end RecordFilter.Command
