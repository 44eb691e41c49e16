import TokenMint.Log.Directive

/-! # Filters

A filter is a list of directives, of which the most specific one that is about an event decides
whether it is let through. -/

namespace TokenMint.Log

/-- Directives about events, the most specific first. -/
structure Filter where
  directives : List Directive := []
deriving DecidableEq, Repr

namespace Filter

/-- Puts a directive into its place, where it takes the place of one about the same events. -/
def insert (d : Directive) : List Directive → List Directive
  | [] => [d]
  | e :: es =>
    if d.sameScope e then d :: es
    else if d.isMoreSpecific e then d :: e :: es
    else e :: insert d es

/-- Adds a directive, if it is about events. -/
def add (f : Filter) (d : Directive) : Filter :=
  if d.isForEvents then { directives := insert d f.directives } else f

/-- The filter of these directives; without any, only errors are let through. -/
def ofDirectives : List Directive → Filter
  | [] => add {} (.bare (.upTo .error))
  | ds => ds.foldl add {}

/-- The filter that a text with commas stands for. What is no directive does not count. -/
def ofText (s : String) : Filter := ofDirectives ((Text.split ',' s).filterMap Directive.parse?)

/-- The directive that decides on events with a target and with fields of these names. -/
def decisive? (f : Filter) (target : String) (fields : List String) : Option Directive :=
  f.directives.find? (·.concerns target fields)

/-- Whether a filter lets an event through. -/
def allows (f : Filter) (level : Level) (target : String) (fields : List String) : Bool :=
  (f.decisive? target fields).any (·.threshold.allows level)

/-- The directive that decides is one of the filter's, and is about the event. -/
theorem mem_of_decisive? {f : Filter} {target : String} {fields : List String} {d : Directive}
    (h : f.decisive? target fields = some d) : d ∈ f.directives ∧ d.concerns target fields :=
  have found : f.directives.find? (·.concerns target fields) = some d := h
  ⟨List.mem_of_find?_eq_some found, by simpa using List.find?_some found⟩

@[simp] theorem insert_nil (d : Directive) : insert d [] = [d] := rfl

theorem mem_insert {d e : Directive} {ds : List Directive} (h : e ∈ insert d ds) :
    e = d ∨ e ∈ ds := by
  fun_induction insert d ds <;> grind

end Filter

end TokenMint.Log
