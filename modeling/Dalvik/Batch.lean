import Dalvik.Pattern.Parser
import Dalvik.Verification

/-!
# Verification of many methods

The methods that have code and are selected by two filters, one on the descriptor of their class and one on their
name, are verified one by one. An error in one of them is reported with it and does not stop the others.
-/

namespace Dalvik

/-- A pattern with the text it was read from. -/
structure Filter where
  source : String
  pattern : Pattern

namespace Filter

def parse? (source : String) : Option Filter := (Pattern.parse? source).map fun p => ⟨source, p⟩

def accepts (f : Filter) (text : String) : Bool := f.pattern.accepts text

/-- A filter as it is shown in the log, where none at all is shown too. -/
def optionText : Option Filter → String
  | none => "None"
  | some f => "Some(Regex(" ++ Text.quoted f.source ++ "))"

end Filter

/-- Which methods to verify; a missing filter selects all. -/
structure Selection where
  classFilter : Option Filter := none
  methodFilter : Option Filter := none

def Selection.selects (s : Selection) (m : Method) : Bool :=
  s.classFilter.all (·.accepts m.descriptor.definer.text) && s.methodFilter.all (·.accepts m.descriptor.name)

/-- The outcome for one method. -/
structure Report where
  method : Method
  outcome : Except Failure Verification

namespace Report

def isVerified (r : Report) : Bool :=
  match r.outcome with
  | .ok v => v.isOk
  | .error _ => false

def isRejected (r : Report) : Bool :=
  match r.outcome with
  | .ok v => !v.isOk
  | .error _ => false

def isFailed (r : Report) : Bool :=
  match r.outcome with
  | .ok _ => false
  | .error _ => true

/-- What is logged for the method. -/
def lines (r : Report) : List LogLine :=
  let name := r.method.descriptor.text
  let complain (text : String) : LogLine := ⟨.error, name ++ ": " ++ text⟩
  ⟨.info, "verify " ++ name⟩ :: match r.outcome with
    | .ok v => v.notes.toList.map Note.line ++ v.violations.map fun x => complain x.text
    | .error f => f.notes.toList.map Note.line ++ [complain f.error.message]

end Report

/-- The reports on the selected methods, in the order of the methods. -/
structure Batch where
  selection : Selection
  reports : List Report

namespace Batch

def verified (b : Batch) : Nat := b.reports.countP Report.isVerified

def rejected (b : Batch) : Nat := b.reports.countP Report.isRejected

def failed (b : Batch) : Nat := b.reports.countP Report.isFailed

/-- What is logged for the whole batch, method after method. -/
def lines (b : Batch) : List LogLine :=
  let filters := "class pattern " ++ Filter.optionText b.selection.classFilter
    ++ ", method pattern " ++ Filter.optionText b.selection.methodFilter
  let counts := toString b.verified ++ " / " ++ toString b.reports.length
    ++ " (" ++ toString b.rejected ++ " rejected, " ++ toString b.failed ++ " failed)"
  ⟨.debug, "filtering methods on " ++ filters⟩ :: b.reports.flatMap Report.lines
    ++ [⟨.info, "verified methods: " ++ counts⟩]

end Batch

/-- Verifies the selected methods that have code. -/
def Hierarchy.verifyAll (h : Hierarchy) (s : Selection) (methods : List Method) : Batch where
  selection := s
  reports := (methods.filter fun m => m.code.isSome && s.selects m).map fun m => ⟨m, h.verify m⟩

end Dalvik
