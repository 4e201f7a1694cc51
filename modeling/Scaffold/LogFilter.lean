import Scaffold.Plan
import Scaffold.Text.Alphanumeric

/-!
The filter for the log. It is a list of rules, each with a target that is the beginning of the names of
some origins and a threshold for the lines that come from there. A target that is longer says more
about an origin, so its rule is the one that counts.
-/

namespace Scaffold

/-- The name of the origin, to which the targets of a filter refer. -/
def Origin.name : Origin → Text
  | .program => "solidgo".toList
  | .files => "solidgo::common::fs::io".toList
  | .settings => "solidgo::core::config".toList
  | .routes => "solidgo::commands::route".toList
  | .newRoute => "solidgo::commands::route::new".toList
  | .addRoute => "solidgo::commands::route::add".toList
  | .addition => "solidgo::commands::route::utils::editor".toList
  | .canonicalForm => "solidgo::commands::route::utils::canonical".toList
  | .component => "solidgo::commands::component".toList

/-- The urgency as a number that grows towards the less urgent. -/
def Severity.rank : Severity → Nat
  | .error => 1
  | .warning => 2
  | .info => 3

/-- How urgent a log line has to be to be printed, or that none is. -/
abbrev Threshold := Option Severity

namespace Threshold

/-- Whether a line of this urgency is printed. -/
def passes (threshold : Threshold) (severity : Severity) : Bool :=
  threshold.any fun limit => severity.rank ≤ limit.rank

/-- The threshold that lets every line through. -/
def everything : Threshold := some .info

/-- The threshold with the given name or number. Those for lines finer than `info` let every line
through. -/
def named? (name : Text) : Option Threshold :=
  match Text.str (name.map Char.toLower) with
  | "off" | "0" => some none
  | "error" | "1" => some (some .error)
  | "warn" | "2" => some (some .warning)
  | "info" | "debug" | "trace" | "3" | "4" | "5" => some everything
  | _ => none

/-- The threshold that stands behind a target. Without one all lines are meant. -/
def behindTarget? : Text → Option Threshold
  | [] | ['='] => some everything
  | '=' :: name => named? name
  | _ => none

end Threshold

/-- A rule of a filter: a threshold for the origins whose names begin with the target. -/
structure LogRule where
  target : Text
  threshold : Threshold
  deriving DecidableEq

namespace LogRule

/-- Whether the rule is about lines from the origin. -/
def covers (rule : LogRule) (origin : Origin) : Bool :=
  rule.target.isPrefixOf origin.name

/-- The rule that gives the threshold to the lines of every origin. -/
def forAll (threshold : Threshold) : LogRule :=
  { target := [], threshold }

/-- Whether a target can begin with the character. -/
def beginsTarget (c : Char) : Bool :=
  isAlphanumeric c || c ∈ ['-', ':', '_']

/-- The rule that one part of a filter's text stands for. A part with brackets selects lines by the
span that they are written in; there are no spans here, so it is well-formed and stands for no rule. -/
def read? (part : Text) : Option (Option LogRule) :=
  match Threshold.named? part with
  | some threshold => some (some (forAll threshold))
  | none =>
    if part.head?.all fun c => c = '[' || beginsTarget c then
      match part.span fun c => c ≠ '=' && c ≠ '[' with
      | (_, '[' :: span) =>
        match span.dropWhile (· ≠ ']') with
        | _ :: rest => (Threshold.behindTarget? rest).map fun _ => none
        | [] => none
      | (target, rest) =>
        (Threshold.behindTarget? rest).map fun threshold => some { target, threshold }
    else none

end LogRule

/-- The rules by which the lines of the log are printed. -/
abbrev LogFilter := List LogRule

namespace LogFilter

/-- The rule that counts for lines from the origin: of those that are about it with the longest target,
the last one. -/
def decisive? (origin : Origin) : LogFilter → Option LogRule
  | [] => none
  | rule :: rest =>
    match decisive? origin rest with
    | some later =>
      some (if rule.covers origin ∧ later.target.length < rule.target.length then rule else later)
    | none => if rule.covers origin then some rule else none

/-- Whether a line of this urgency from the origin is printed. A line that no rule is about is not. -/
def prints (filter : LogFilter) (origin : Origin) (severity : Severity) : Bool :=
  (filter.decisive? origin).any fun rule => rule.threshold.passes severity

/-- The filter that goes with the number of requests for more logging. -/
def ofVerbosity (verbosity : Nat) : LogFilter :=
  [.forAll (if verbosity = 0 then some .warning else Threshold.everything)]

/-- The filter that the text describes, if each of its parts between commas is well-formed. A text
without parts lets the errors through. -/
def read? (t : Text) : Option LogFilter :=
  match (t.splitOn ',').filter (· ≠ []) with
  | [] => some [.forAll (some .error)]
  | parts => (parts.mapM LogRule.read?).map fun rules => rules.filterMap id

/-- Between the rules `before` and `after` the rule is the one that counts for the origin. -/
structure Decisive (origin : Origin) (before : LogFilter) (rule : LogRule) (after : LogFilter) :
    Prop where
  covers : rule.covers origin
  before : ∀ other ∈ before, other.covers origin → other.target.length ≤ rule.target.length
  after : ∀ other ∈ after, other.covers origin → other.target.length < rule.target.length

variable {origin : Origin} {filter before after : LogFilter} {rule : LogRule}

theorem Decisive.length_le {other : LogRule} (h : Decisive origin before rule after)
    (hMem : other ∈ before ++ rule :: after) (hOther : other.covers origin) :
    other.target.length ≤ rule.target.length := by
  rcases List.mem_append.mp hMem with hMem | hMem
  · exact h.before other hMem hOther
  · rcases List.mem_cons.mp hMem with rfl | hMem
    · exact Nat.le_refl _
    · exact Nat.le_of_lt (h.after other hMem hOther)

theorem decisive?_eq_none_iff :
    filter.decisive? origin = none ↔ ∀ rule ∈ filter, rule.covers origin = false := by
  induction filter with
  | nil => simp [decisive?]
  | cons rule rest ih =>
      rw [decisive?, List.forall_mem_cons, ← ih]
      cases decisive? origin rest <;> simp

theorem exists_of_decisive? (h : filter.decisive? origin = some rule) :
    ∃ before after, filter = before ++ rule :: after ∧ Decisive origin before rule after := by
  induction filter generalizing rule with
  | nil => cases h
  | cons first rest ih =>
      rw [decisive?] at h
      cases hRest : decisive? origin rest with
      | none =>
          rw [hRest] at h
          simp only [Option.ite_none_right_eq_some, Option.some.injEq] at h
          obtain ⟨hCovers, rfl⟩ := h
          refine ⟨[], rest, rfl, hCovers, by simp, fun other hMem hOther => ?_⟩
          rw [decisive?_eq_none_iff.mp hRest other hMem] at hOther
          cases hOther
      | some later =>
          obtain ⟨before, after, rfl, hLater⟩ := ih hRest
          rw [hRest, Option.some.injEq] at h
          split at h
          · -- The first rule has a longer target than `later`, so than every rule behind it.
            rename_i hFirst
            subst h
            refine ⟨[], _, rfl, hFirst.1, by simp, fun other hMem hOther => ?_⟩
            exact Nat.lt_of_le_of_lt (hLater.length_le hMem hOther) hFirst.2
          · rename_i hFirst
            subst h
            refine ⟨first :: before, after, rfl, hLater.covers, ?_, hLater.after⟩
            refine List.forall_mem_cons.mpr ⟨fun hOther => ?_, hLater.before⟩
            exact Nat.le_of_not_lt fun hLonger => hFirst ⟨hOther, hLonger⟩

theorem decisive?_of_decisive (h : Decisive origin before rule after) :
    (before ++ rule :: after).decisive? origin = some rule := by
  induction before with
  | nil =>
      rw [List.nil_append, decisive?]
      cases hAfter : decisive? origin after with
      | none => exact if_pos h.covers
      | some later =>
          obtain ⟨_, _, rfl, hLater⟩ := exists_of_decisive? hAfter
          exact congrArg some (if_pos ⟨h.covers, h.after later (by simp) hLater.covers⟩)
  | cons first before ih =>
      have hBefore := List.forall_mem_cons.mp h.before
      rw [List.cons_append, decisive?, ih { h with before := hBefore.2 }]
      exact congrArg some (if_neg fun hFirst => Nat.not_lt.mpr (hBefore.1 hFirst.1) hFirst.2)

/-- The rule that counts is the last one with the longest target among those about the origin. -/
theorem decisive?_eq_some_iff :
    filter.decisive? origin = some rule ↔
      ∃ before after, filter = before ++ rule :: after ∧ Decisive origin before rule after := by
  refine ⟨exists_of_decisive?, ?_⟩
  rintro ⟨before, after, rfl, h⟩
  exact decisive?_of_decisive h

theorem prints_iff {severity : Severity} :
    filter.prints origin severity ↔
      ∃ before rule after, filter = before ++ rule :: after ∧ Decisive origin before rule after ∧
        rule.threshold.passes severity := by
  rw [prints, Option.any_eq_true]
  constructor
  · rintro ⟨rule, hRule, hPasses⟩
    obtain ⟨before, after, hFilter, hDecisive⟩ := decisive?_eq_some_iff.mp hRule
    exact ⟨before, rule, after, hFilter, hDecisive, hPasses⟩
  · rintro ⟨before, rule, after, hFilter, hDecisive, hPasses⟩
    exact ⟨rule, decisive?_eq_some_iff.mpr ⟨before, after, hFilter, hDecisive⟩, hPasses⟩

example : (read? "warn,solidgo::core=info,[x]=off".toList).map (fun filter =>
    [Origin.program, .settings].map fun origin => filter.prints origin .info) =
      some [false, true] := by
  decide +kernel

end LogFilter

end Scaffold
