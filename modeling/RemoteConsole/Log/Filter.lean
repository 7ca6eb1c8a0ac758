import RemoteConsole.Log.Directive
import RemoteConsole.Log.Remark

/-!
# Filters of the log

* `Filter`: directives, each of which says up to which level something is kept.
* `Filter.read`: the filter of a text, its directives separated by commas.
* `Filter.keptSpans`, `Filter.keepsRemark`: the spans and the remarks that a filter keeps.

Of the directives that ask for no span and no value, the most specific one whose target a record's
target begins with decides, and without one the record is not kept. Directives about spans add to
this: they keep the spans that they are about, and what happens in these up to their own level.
-/

namespace RemoteConsole.Log

/-- The directives of a filter. -/
abbrev Filter := List Directive

namespace Filter

/-- The filter that keeps what is informative or graver. -/
def info : Filter := [⟨⟨none, none, none⟩, some .info⟩]

/-- The filter of a text, or the flaw of its first directive that has one. Without a directive
nothing is kept. -/
def read (text : String) : Except FilterFlaw Filter :=
  ((text.splitOn ",").filter (· ≠ "")).mapM Directive.read

/-- The directives that count: of two with the same selector, the last one. -/
def settled : Filter → List Directive
  | [] => []
  | d :: ds => if ds.any (·.selector = d.selector) then settled ds else d :: settled ds

/-- Up to which level anything can be kept. A directive that asks for a value leaves this open, since
values are known only when something happens. -/
def ceiling (f : Filter) : Threshold :=
  if f.any (·.selector.asksValue) then some .trace else Threshold.highest (f.map (·.threshold))

/-! ## Records by themselves -/

/-- The more specific of two directives, the second one of two alike. -/
def moreSpecific : Option Directive → Directive → Option Directive
  | none, d => some d
  | some best, d => if best.selector.isWithin d.selector then some d else some best

/-- The threshold of the most specific directive. -/
def decisive (ds : List Directive) : Threshold := (ds.foldl moreSpecific none).bind (·.threshold)

/-- The static directives about a target. -/
def staticFor (f : Filter) (target : String) : List Directive :=
  f.settled.filter fun d => d.selector.isStatic && d.selector.hasTarget target

/-- The threshold for the remarks of a target. -/
def remarkThreshold (f : Filter) (target : String) : Threshold :=
  decisive ((f.staticFor target).filter (·.selector.hasField Remark.fieldNames))

/-- The threshold for the spans of a target. -/
def spanThreshold (f : Filter) (target : String) : Threshold := decisive (f.staticFor target)

/-! ## Records in spans -/

/-- The directives about a span, whatever the values of its fields are. -/
def dynamicFor (f : Filter) (s : Span) : List Directive :=
  f.settled.filter fun d =>
    d.selector.isDynamic && d.selector.hasTarget s.target && d.selector.hasName s.name &&
      d.selector.hasField s.fieldNames

/-- The threshold for what happens in a span. -/
def innerThreshold (f : Filter) (s : Span) : Threshold :=
  Threshold.highest
    (((f.dynamicFor s).filter (·.selector.passes s.fields)).map (·.threshold))

/-- One of the spans keeps what happens in it at the level. -/
def keepsInside (f : Filter) (spans : List Span) (level : Level) : Bool :=
  spans.any fun s => (f.innerThreshold s).keeps level

/-- The filter keeps a span in the spans around it that are kept. -/
def keepsSpan (f : Filter) (outer : List Span) (s : Span) : Bool :=
  (!(f.dynamicFor s).isEmpty && f.ceiling.keeps s.level) ||
    (f.spanThreshold s.target).keeps s.level || f.keepsInside outer s.level

/-- The spans that are kept, the outermost first. -/
def keptSpans (f : Filter) (spans : List Span) : List Span :=
  spans.foldl (fun outer s => if f.keepsSpan outer s then outer ++ [s] else outer) []

/-- The filter keeps a remark. -/
def keepsRemark (f : Filter) (r : Remark) : Bool :=
  (f.remarkThreshold r.target).keeps r.level || f.keepsInside (f.keptSpans r.spans) r.level

/-- A directive about a span keeps what happens in it, and nothing else. -/
example :
    let span : Span := ⟨"run", .info, "a", [("id", "7")]⟩
    let inside : Remark := ⟨.debug, "b", "", [span]⟩
    let outside : Remark := ⟨.error, "b", "", []⟩
    let f : Filter := [⟨⟨some "a", some "run", none⟩, some .debug⟩]
    f.keepsRemark inside = true ∧ f.keepsRemark outside = false := by
  decide +kernel

/-- The longer target decides, whichever comes first. -/
example :
    let f : Filter := [⟨⟨some "a::b", none, none⟩, none⟩, ⟨⟨some "a", none, none⟩, some .debug⟩]
    ["a", "a::b", "a::c", "b"].map (fun t => f.keepsRemark ⟨.info, t, "", []⟩) =
      [true, false, true, false] := by
  decide +kernel

end Filter

end RemoteConsole.Log
