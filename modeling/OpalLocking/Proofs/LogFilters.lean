/-
Which directive of a log filter decides about a record.

A directive decides that fits, with no longer name in front of it and none as long behind it (`Directive.Decides`). There
is one as soon as any directive fits, and the fold over the directives finds it. However a filter is written, no two of its
directives are about the same parts: the later one takes the place of the other.
-/
import OpalLocking.LogFilter

namespace OpalLocking

namespace Directive

variable {ds : List Directive} {d : Directive} {topic : Topic}

/-! ## Which one decides -/

/-- Among these directives, `d` decides about a part of the library. -/
def Decides (ds : List Directive) (topic : Topic) (d : Directive) : Prop :=
  ∃ before after, ds = before ++ d :: after ∧ d.fits topic = true ∧
    (∀ e ∈ before, e.fits topic = true → e.weight ≤ d.weight) ∧ ∀ e ∈ after, e.fits topic = true → e.weight < d.weight

theorem Decides.weight_le (decides : Decides ds topic d) {e : Directive} (mem : e ∈ ds) (fits : e.fits topic = true) :
    e.weight ≤ d.weight := by
  obtain ⟨before, after, rfl, -, earlier, later⟩ := decides
  rcases List.mem_append.1 mem with mem | mem
  · exact earlier e mem fits
  · rcases List.mem_cons.1 mem with rfl | mem
    · exact Nat.le_refl _
    · exact Nat.le_of_lt (later e mem fits)

theorem exists_decides (fitting : ∃ e ∈ ds, e.fits topic = true) : ∃ d, Decides ds topic d := by
  induction ds with
  | nil => simp at fitting
  | cons x rest ih =>
    by_cases behind : ∃ e ∈ rest, e.fits topic = true
    · obtain ⟨d, decides⟩ := ih behind
      by_cases heavier : x.fits topic = true ∧ d.weight < x.weight
      · -- All that fit behind `x` weigh no more than the one that decided among them.
        refine ⟨x, [], rest, rfl, heavier.1, nofun, fun e mem fits => ?_⟩
        exact Nat.lt_of_le_of_lt (decides.weight_le mem fits) heavier.2
      · obtain ⟨before, after, split, fits, earlier, later⟩ := decides
        refine ⟨d, x :: before, after, by rw [split]; rfl, fits, ?_, later⟩
        intro e mem fitsToo
        rcases List.mem_cons.1 mem with rfl | mem
        · exact Nat.not_lt.1 fun more => heavier ⟨fitsToo, more⟩
        · exact earlier e mem fitsToo
    · obtain ⟨e, mem, fits⟩ := fitting
      rcases List.mem_cons.1 mem with rfl | mem
      · exact ⟨e, [], rest, rfl, fits, nofun, fun e' mem' fits' => absurd ⟨e', mem', fits'⟩ behind⟩
      · exact absurd ⟨e, mem, fits⟩ behind

theorem mem_of_foldl_prefer {best : Option Directive} (h : ds.foldl prefer best = some d) :
    best = some d ∨ d ∈ ds := by
  induction ds generalizing best with
  | nil => exact .inl h
  | cons x rest ih =>
    rcases ih h with chosen | mem
    · unfold prefer at chosen
      split at chosen
      · split at chosen
        · exact .inr (List.mem_cons.2 (.inl (Option.some.inj chosen).symm))
        · exact .inl chosen
      · exact .inr (List.mem_cons.2 (.inl (Option.some.inj chosen).symm))
    · exact .inr (.tail _ mem)

theorem foldl_prefer_keeps (lighter : ∀ e ∈ ds, e.weight < d.weight) : ds.foldl prefer (some d) = some d := by
  induction ds with
  | nil => rfl
  | cons x rest ih =>
    rw [List.foldl_cons, prefer, if_neg (Nat.not_le.2 (lighter x (.head _)))]
    exact ih fun e mem => lighter e (.tail _ mem)

theorem Decides.foldl_eq (decides : Decides ds topic d) : (ds.filter (·.fits topic)).foldl prefer none = some d := by
  obtain ⟨before, after, rfl, fits, earlier, later⟩ := decides
  rw [List.filter_append, List.filter_cons, if_pos fits, List.foldl_append, List.foldl_cons]
  have chosen : prefer ((before.filter (·.fits topic)).foldl prefer none) d = some d := by
    cases best : (before.filter (·.fits topic)).foldl prefer none with
    | none => rfl
    | some b =>
      obtain ⟨mem, fitsToo⟩ := List.mem_filter.1 ((mem_of_foldl_prefer best).resolve_left nofun)
      exact if_pos (earlier b mem fitsToo)
  rw [chosen]
  refine foldl_prefer_keeps fun e mem => ?_
  obtain ⟨mem, fitsToo⟩ := List.mem_filter.1 mem
  exact later e mem fitsToo

/-! ## One directive for the same parts -/

theorem mem_targets_insert {target : Option String} :
    target ∈ (insert d ds).map Directive.target ↔ target = d.target ∨ target ∈ ds.map Directive.target := by
  induction ds with
  | nil => simp [insert]
  | cons e rest ih =>
    unfold insert
    split
    · next same => simp [same]
    · rw [List.map_cons, List.mem_cons, ih, List.map_cons, List.mem_cons]
      exact or_left_comm

theorem nodup_targets_insert (d : Directive) (distinct : (ds.map Directive.target).Nodup) :
    ((insert d ds).map Directive.target).Nodup := by
  induction ds with
  | nil => exact List.nodup_cons.2 ⟨nofun, .nil⟩
  | cons e rest ih =>
    obtain ⟨fresh, others⟩ := List.nodup_cons.1 distinct
    unfold insert
    split
    · next same => exact List.nodup_cons.2 ⟨same ▸ fresh, others⟩
    · next ne =>
      refine List.nodup_cons.2 ⟨fun mem => ?_, ih others⟩
      exact (mem_targets_insert.1 mem).elim ne fresh

theorem nodup_targets_readAll (text : List Char) : ((readAll text).1.map Directive.target).Nodup := by
  have all : ∀ (parts : List (List Char)) (found : List Directive × List FilterMistake),
      (found.1.map Directive.target).Nodup → ((parts.foldl readNext found).1.map Directive.target).Nodup := by
    intro parts
    induction parts with
    | nil => exact fun _ distinct => distinct
    | cons part rest ih =>
      intro found distinct
      refine ih _ ?_
      unfold readNext
      split
      · exact nodup_targets_insert _ distinct
      · exact distinct
  exact all _ _ .nil

end Directive

namespace LogFilter

variable {f : LogFilter} {topic : Topic} {d : Directive} {r : Record}

theorem decisive?_eq_none_iff : f.decisive? topic = none ↔ ∀ e ∈ f.directives, e.fits topic = false := by
  constructor
  · intro none e mem
    refine Bool.eq_false_iff.2 fun fits => ?_
    obtain ⟨d, decides⟩ := Directive.exists_decides ⟨e, mem, fits⟩
    rw [decisive?, decides.foldl_eq] at none
    cases none
  · intro unfit
    have empty : f.directives.filter (·.fits topic) = [] := by
      simpa [List.filter_eq_nil_iff] using unfit
    rw [decisive?, empty]
    rfl

/-- The directive with the longest name that fits decides, and of two such the later one. -/
theorem decisive?_eq_some_iff : f.decisive? topic = some d ↔ Directive.Decides f.directives topic d := by
  refine ⟨fun decisive => ?_, fun decides => decides.foldl_eq⟩
  by_cases any : ∃ e ∈ f.directives, e.fits topic = true
  · obtain ⟨d', decides⟩ := Directive.exists_decides any
    obtain rfl : d' = d := Option.some.inj (decides.foldl_eq.symm.trans decisive)
    exact decides
  · have none := decisive?_eq_none_iff.2 fun e mem =>
      Bool.eq_false_iff.2 fun fits => any ⟨e, mem, fits⟩
    rw [none] at decisive
    cases decisive

/-- A record is written if its level is within what the deciding directive asks for and its message matches the
pattern, if there is one. -/
theorem admits_iff :
    f.admits r = true ↔
      ∃ d, Directive.Decides f.directives r.topic d ∧ r.level.rank < d.levels ∧
        ∀ p ∈ f.pattern, p.search r.message = true := by
  have matched : f.pattern.all (·.search r.message) = true ↔ ∀ p ∈ f.pattern, p.search r.message = true := by
    cases f.pattern <;> simp
  unfold admits
  rw [Bool.and_eq_true, matched]
  cases decisive : f.decisive? r.topic with
  | none =>
    simp [← decisive?_eq_some_iff, decisive]
  | some d =>
    simp [← decisive?_eq_some_iff, decisive]

/-- However a filter is written, no two of its directives are about the same parts. -/
theorem nodup_targets_read (text : String) : ((read text).1.directives.map Directive.target).Nodup := by
  have any : ∀ {found : List Directive} (pattern : Option Pattern.Automaton), (found.map Directive.target).Nodup →
      ((ofDirectives found pattern).directives.map Directive.target).Nodup := by
    intro found pattern distinct
    unfold ofDirectives
    dsimp only
    split
    · exact List.nodup_cons.2 ⟨nofun, .nil⟩
    · exact distinct
  unfold read
  split
  · exact any _ (Directive.nodup_targets_readAll _)
  · dsimp only
    split <;> exact any _ (Directive.nodup_targets_readAll _)
  · exact any _ .nil

/-- A single level for all parts of the library. -/
theorem admits_of_single {levels : Nat} (single : f.directives = [⟨none, levels⟩]) (bare : f.pattern = none) :
    f.admits r = true ↔ r.level.rank < levels := by
  simp [admits, decisive?, single, bare, Directive.fits, Directive.prefer]

/-- Unless another filter is asked for, errors and warnings are written, and with any verbosity all records. -/
theorem ofVerbosity_admits_iff (verbosity : Nat) :
    (ofVerbosity verbosity).admits r = true ↔ 0 < verbosity ∨ r.level = .error ∨ r.level = .warn := by
  have quiet : (read "warn").1.directives = [⟨none, 2⟩] ∧ (read "warn").1.pattern = none := ⟨by decide +kernel, rfl⟩
  have loud : (read "debug").1.directives = [⟨none, 4⟩] ∧ (read "debug").1.pattern = none := ⟨by decide +kernel, rfl⟩
  unfold ofVerbosity
  by_cases more : 0 < verbosity
  · rw [if_pos more, admits_of_single loud.1 loud.2]
    cases r.level <;> simp [more, Level.rank]
  · rw [if_neg more, admits_of_single quiet.1 quiet.2]
    cases r.level <;> simp [more, Level.rank]

end LogFilter

end OpalLocking
