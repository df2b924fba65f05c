import BenchReport.Log.Directive

/-! Which events are told: a list of directives, of which the most specific decides. -/

namespace BenchReport.Log

abbrev Filter := List Directive

namespace Filter

def usual : Filter := [{ level := .warn }]

def read? (s : String) : Option Filter :=
  match ((s.toList.splitOn ',').filter (· ≠ [])).mapM Directive.read? with
  | some [] => some [{ level := .error }]
  | ds => ds

def ofSetting (setting : Option Bytes) : Filter :=
  ((setting.bind Bytes.text?).bind read?).getD usual

/-- The most specific directive that concerns an event, the last of equals. -/
def decisive? (f : Filter) (e : Event) : Option Directive :=
  (f.filter fun d => d.concerns e).foldl
    (fun best d => match best with
      | some b => if d.weighsLess b then best else some d
      | none => some d) none

def tells (f : Filter) (e : Event) : Bool :=
  match f.decisive? e with
  | some d => e.level.rank ≤ d.level.rank
  | none => false

end Filter

end BenchReport.Log
