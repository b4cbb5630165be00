import Mathlib
import Phrasemill.Proofs.History
import Phrasemill.Proofs.Session
import Phrasemill.Proofs.Syntax.Layout

/-!
# The order of definitions

Where every name is defined once and no definition leads back to itself through others, the order in
which they are made does not matter. The rules that are stored differ from order to order: a
definition takes up the rules that are there and leaves the other names to be looked up. But they all
evaluate to what the definitions give as they were written, with every name looked up when it is
needed (`History.evaluate_eq_lookup`), and to look a name up is the same in any order.

What could make a difference is the check for cycles, which a rule that was taken up does not go
through. The rank of a name is smaller than that of every active rule when it is entered, so that the
check never fires, except on a definition that names itself; and that one is always left to be looked
up.
-/

namespace Phrasemill

/-! ### Tables whose keys occur once -/

section Lookup

variable {α β : Type} [DecidableEq α]

theorem lookup_eq_some_iff_mem {entries : List (α × β)} (nodup : (entries.map Prod.fst).Nodup)
    {k : α} {b : β} : entries.lookup k = some b ↔ (k, b) ∈ entries := by
  induction entries with
  | nil => simp
  | cons e entries ih =>
    obtain ⟨i, c⟩ := e
    rw [List.map_cons, List.nodup_cons] at nodup
    obtain ⟨new, nodup⟩ := nodup
    by_cases same : k = i
    · subst same
      have elsewhere : (k, b) ∉ entries := fun mem =>
        new (List.mem_map.2 ⟨(k, b), mem, rfl⟩)
      simp [List.lookup_cons_self, elsewhere, eq_comm]
    · simp [lookup_cons_of_ne same, ih nodup, same]

theorem lookup_eq_of_perm {entries others : List (α × β)} (perm : entries.Perm others)
    (nodup : (entries.map Prod.fst).Nodup) (k : α) : entries.lookup k = others.lookup k := by
  refine Option.ext fun b => ?_
  have nodup_others : (others.map Prod.fst).Nodup := (perm.map Prod.fst).nodup_iff.1 nodup
  rw [lookup_eq_some_iff_mem nodup, lookup_eq_some_iff_mem nodup_others, perm.mem_iff]

end Lookup

namespace Expr

/-! ### Looking names up -/

/-- Evaluation depends on a grammar through its look-ups alone. -/
theorem evaluate_congr {g h : Grammar} (same : ∀ name, g.find? name = h.find? name) (count : Nat)
    (active : List String) (e : Expr) : evaluate g count active e = evaluate h count active e := by
  have all {active : List String} {es : List Expr}
      (each : ∀ e ∈ es, evaluate g count active e = evaluate h count active e) :
      evaluateAll g count active es = evaluateAll h count active es := by
    induction es with
    | nil => rw [evaluateAll, evaluateAll]
    | cons e es ih =>
      obtain ⟨here, others⟩ := List.forall_mem_cons.1 each
      rw [evaluateAll, evaluateAll, here, ih others]
  induction active, e using evaluate_induction g with
  | literal active constant line => rw [evaluate, evaluate]
  | reference active name line ih =>
    cases named : Category.ofName? name with
    | some category => rw [evaluate_category g count active named, evaluate_category h count active named]
    | none =>
      rw [evaluate_reference g count active named, evaluate_reference h count active named, ← same]
      cases found : g.find? name with
      | none => rfl
      | some body =>
        dsimp only
        split
        · rfl
        · next fresh => exact ih body named found fresh
  | list active elements line ih => rw [evaluate, evaluate, all ih]
  | call active name arguments line ih => rw [evaluate, evaluate, all ih]
  | method active receiver name arguments line ih_receiver ih =>
    rw [evaluate, evaluate, ih_receiver, all ih]
  | rule active name body line ih => rw [evaluate_rule, evaluate_rule, ih]

/-- The expression refers to the rule `name`. The name of a category object refers to no rule. -/
inductive RefersTo (name : String) : Expr → Prop
  | reference (unnamed : Category.ofName? name = none) (line : Nat) :
      RefersTo name (.reference name line)
  | element {e : Expr} {elements : List Expr} (mem : e ∈ elements) (inside : RefersTo name e)
      (line : Nat) : RefersTo name (.list elements line)
  | argument {e : Expr} {arguments : List Expr} (mem : e ∈ arguments) (inside : RefersTo name e)
      (function : String) (line : Nat) : RefersTo name (.call function arguments line)
  | receiver {receiver : Expr} (inside : RefersTo name receiver) (function : String)
      (arguments : List Expr) (line : Nat) : RefersTo name (.method receiver function arguments line)
  | operand {e : Expr} {arguments : List Expr} (mem : e ∈ arguments) (inside : RefersTo name e)
      (receiver : Expr) (function : String) (line : Nat) :
      RefersTo name (.method receiver function arguments line)

end Expr

namespace History

/-! ### Definitions that are made once -/

theorem latest?_suffix {earlier before : History} {name : String} {body : Expr}
    (known : earlier.latest? name = some (body, before)) : (name, body) :: before <:+ earlier := by
  induction earlier with
  | nil => cases known
  | cons d earlier ih =>
    obtain ⟨defined, written⟩ := d
    rw [latest?] at known
    split at known
    · next same =>
      cases known
      subst same
      exact List.suffix_refl _
    · exact (ih known).trans (List.suffix_cons _ _)

theorem latest?_eq_none_iff {h : History} {name : String} :
    h.latest? name = none ↔ name ∉ h.map Prod.fst := by
  induction h with
  | nil => simp [latest?]
  | cons d earlier ih =>
    obtain ⟨defined, body⟩ := d
    rw [latest?, List.map_cons, List.mem_cons, not_or]
    split
    · next same => simp [same]
    · next other => simp [other, ih]

/-- The rank of a definition is larger than those of the other definitions it refers to. -/
def RankedBy (rank : String → Nat) (definitions : List (String × Expr)) : Prop :=
  ∀ d ∈ definitions, ∀ other ∈ definitions, d.2.RefersTo other.1 → other.1 ≠ d.1 →
    rank other.1 < rank d.1

/-- No definition leads back to itself through others. -/
def Acyclic (definitions : List (String × Expr)) : Prop := ∃ rank, RankedBy rank definitions

section Once

variable {all : History} (once : (all.map Prod.fst).Nodup)
include once

theorem lookup_eq_of_latest? {earlier before : History} (part : earlier <:+ all) {name : String}
    {body : Expr} (known : earlier.latest? name = some (body, before)) :
    all.lookup name = some body := by
  rw [lookup_eq_some_iff_mem once]
  exact part.mem ((latest?_suffix known).mem List.mem_cons_self)

theorem latest?_eq_none_of_latest? {earlier before : History} (part : earlier <:+ all)
    {name : String} {body : Expr} (known : earlier.latest? name = some (body, before)) :
    before.latest? name = none := by
  have suffix := ((latest?_suffix known).trans part).map Prod.fst
  rw [latest?_eq_none_iff]
  rw [List.map_cons] at suffix
  exact (List.nodup_cons.1 (once.sublist suffix.sublist)).1

end Once

theorem lookup_eq_none_iff_latest? {all : History} {name : String} :
    all.lookup name = none ↔ all.latest? name = none := by
  rw [latest?_eq_none_iff, List.lookup_eq_none_iff]
  constructor
  · intro other mem
    obtain ⟨d, is_entry, rfl⟩ := List.mem_map.1 mem
    simpa using other d is_entry
  · intro absent d is_entry
    have : name ≠ d.1 := by
      rintro rfl
      exact absent (List.mem_map_of_mem is_entry)
    simpa using this

/-! ### Every name can be looked up -/

/-- Of the rules that the expression refers to none is active, except one that has to be looked up:
the one whose definition the expression is in. -/
def Clear (rank : String → Nat) (all earlier : History) (active : List String) (e : Expr) : Prop :=
  ∀ name ∈ all.map Prod.fst, e.RefersTo name →
    (∀ entered ∈ active, rank name < rank entered) ∨ (name ∈ active ∧ earlier.latest? name = none)

section Ranked

variable {rank : String → Nat} {all : History} (once : (all.map Prod.fst).Nodup)
  (ranked : RankedBy rank all)
include once ranked

theorem clear_body {earlier before : History} (part : earlier <:+ all) {name : String} {body : Expr}
    (known : earlier.latest? name = some (body, before)) {active : List String}
    (above : ∀ entered ∈ active, rank name < rank entered) :
    Clear rank all before (name :: active) body := by
  intro other defined refers
  by_cases same : other = name
  · subst same
    exact .inr ⟨List.mem_cons_self, latest?_eq_none_of_latest? once part known⟩
  · obtain ⟨d, is_entry, rfl⟩ := List.mem_map.1 defined
    have is_body : (name, body) ∈ all := part.mem ((latest?_suffix known).mem List.mem_cons_self)
    have lt : rank d.1 < rank name := ranked _ is_body d is_entry refers same
    refine .inl (List.forall_mem_cons.2 ⟨lt, fun entered mem => ?_⟩)
    exact lt.trans (above entered mem)

/-- Definitions that are made once evaluate as if every name were looked up. -/
theorem evaluate_eq_lookup (written : ∀ d ∈ all, d.2.Written) (count : Nat) (active : List String)
    {earlier : History} (part : earlier <:+ all) {e : Expr} (written_down : e.Written)
    (clear : Clear rank all earlier active e) :
    evaluate all count active earlier e = e.evaluate ⟨all⟩ count active := by
  have each {active : List String} {earlier : History} {es : List Expr}
      (same : ∀ e ∈ es, evaluate all count active earlier e = e.evaluate ⟨all⟩ count active) :
      evaluateAll all count active earlier es = Expr.evaluateAll ⟨all⟩ count active es := by
    induction es with
    | nil => rw [evaluateAll, Expr.evaluateAll]
    | cons e es ih =>
      obtain ⟨here, others⟩ := List.forall_mem_cons.1 same
      rw [evaluateAll, Expr.evaluateAll, here, ih others]
  induction active, e using Expr.evaluate_induction ⟨all⟩ generalizing earlier with
  | literal active constant line => rw [evaluate, Expr.evaluate]
  | reference active name line ih =>
    cases named : Category.ofName? name with
    | some category =>
      rw [evaluate_category all count active named, Expr.evaluate_category _ count active named]
    | none =>
      rw [Expr.evaluate_reference _ count active named]
      -- Behind any of the definitions the name means the one definition it has.
      have enter {known_part before : History} {body : Expr} (is_part : known_part <:+ all)
          (known : known_part.latest? name = some (body, before))
          (above : ∀ entered ∈ active, rank name < rank entered) :
          evaluate all count (name :: active) before body =
            body.evaluate ⟨all⟩ count (name :: active) := by
        have found := lookup_eq_of_latest? once is_part known
        have fresh : name ∉ active := fun mem => (above name mem).false
        have before_part := (List.suffix_cons _ _).trans ((latest?_suffix known).trans is_part)
        have is_body := (lookup_eq_some_iff_mem once).1 found
        exact ih body named found fresh before_part (written _ is_body)
          (clear_body once ranked is_part known above)
      cases looked_up : all.latest? name with
      | none =>
        have unknown : earlier.latest? name = none := by
          rw [latest?_eq_none_iff] at looked_up ⊢
          exact fun mem => looked_up ((part.map Prod.fst).mem mem)
        have absent : (⟨all⟩ : Grammar).find? name = none := lookup_eq_none_iff_latest?.2 looked_up
        rw [evaluate_unknown all count active named unknown, looked_up, absent]
      | some d =>
        obtain ⟨body, before⟩ := d
        have found : (⟨all⟩ : Grammar).find? name = some body :=
          lookup_eq_of_latest? once (List.suffix_refl all) looked_up
        have defined : name ∈ all.map Prod.fst := by
          by_contra absent
          rw [latest?_eq_none_iff.2 absent] at looked_up
          cases looked_up
        rw [found]
        dsimp only
        rcases clear name defined (.reference named line) with above | ⟨entered, unknown⟩
        · have fresh : name ∉ active := fun mem => (above name mem).false
          rw [if_neg fresh]
          cases known : earlier.latest? name with
          | none =>
            rw [evaluate_unknown all count active named known, looked_up]
            dsimp only
            rw [if_neg fresh, enter (List.suffix_refl all) looked_up above]
          | some d =>
            obtain ⟨same_body, before⟩ := d
            have same : same_body = body := by
              have := lookup_eq_of_latest? once part known
              exact Option.some.inj (this.symm.trans found)
            rw [evaluate_known all count active named known, enter part known above, same]
        · rw [evaluate_unknown all count active named unknown, looked_up]
          dsimp only
          rw [if_pos entered, if_pos entered]
  | list active elements line ih =>
    cases written_down with
    | list parts =>
      rw [evaluate, Expr.evaluate, each fun e mem => ih e mem part (parts e mem)
        fun name defined refers => clear name defined (.element mem refers line)]
  | call active name arguments line ih =>
    cases written_down with
    | call _ parts =>
      rw [evaluate, Expr.evaluate, each fun e mem => ih e mem part (parts e mem)
        fun other defined refers => clear other defined (.argument mem refers name line)]
  | method active receiver name arguments line ih_receiver ih =>
    cases written_down with
    | method object _ parts =>
      rw [evaluate, Expr.evaluate, ih_receiver part object
        fun other defined refers => clear other defined (.receiver refers name arguments line),
        each fun e mem => ih e mem part (parts e mem)
          fun other defined refers => clear other defined (.operand mem refers receiver name line)]
  | rule active name body line => cases written_down

/-- A statement that comes behind all definitions has every name looked up. -/
theorem evaluate_resolve_eq_lookup (written : ∀ d ∈ all, d.2.Written) (count : Nat) {e : Expr}
    (written_down : e.Written) :
    (all.grammar.resolve e).evaluate all.grammar count [] = e.evaluate ⟨all⟩ count [] := by
  rw [evaluate_resolve]
  exact evaluate_eq_lookup once ranked written count [] (List.suffix_refl all) written_down
    fun name defined refers => .inl (List.forall_mem_nil _)

end Ranked

theorem RankedBy.perm {rank : String → Nat} {definitions others : List (String × Expr)}
    (ranked : RankedBy rank definitions) (perm : definitions.Perm others) :
    RankedBy rank others :=
  fun d mem other other_mem => ranked d (perm.mem_iff.2 mem) other (perm.mem_iff.2 other_mem)

/-- In whatever order the definitions are made, a statement behind them evaluates alike. -/
theorem evaluate_resolve_of_perm {all others : History} (perm : all.Perm others)
    (once : (all.map Prod.fst).Nodup) (acyclic : Acyclic all) (written : ∀ d ∈ all, d.2.Written)
    (count : Nat) {e : Expr} (written_down : e.Written) :
    (all.grammar.resolve e).evaluate all.grammar count [] =
      (others.grammar.resolve e).evaluate others.grammar count [] := by
  obtain ⟨rank, ranked⟩ := acyclic
  have once_others : (others.map Prod.fst).Nodup := (perm.map Prod.fst).nodup_iff.1 once
  have written_others : ∀ d ∈ others, d.2.Written := fun d mem => written d (perm.mem_iff.2 mem)
  rw [evaluate_resolve_eq_lookup once ranked written count written_down,
    evaluate_resolve_eq_lookup once_others (ranked.perm perm) written_others count written_down]
  exact Expr.evaluate_congr (lookup_eq_of_perm perm once) count [] e

end History

/-! ### Sessions -/

/-- A definition as a statement makes it. -/
structure Definition where
  name : String
  body : Expr
  line : Nat

namespace Definition

def statement (d : Definition) : Statement := .define d.name d.body d.line

def entry (d : Definition) : String × Expr := (d.name, d.body)

end Definition

namespace Session

/-- The sessions differ in nothing but their rules, and what is written down evaluates alike in
both. -/
structure Alike (s t : Session) : Prop where
  settings : s.settings = t.settings
  pool : s.pool = t.pool
  master : s.master = t.master
  evaluate : ∀ (count : Nat) (e : Expr), e.Written →
    (s.grammar.resolve e).evaluate s.grammar count [] =
      (t.grammar.resolve e).evaluate t.grammar count []

theorem Alike.generate {s t : Session} (alike : s.Alike t) (single : s.settings.workers ≤ 1)
    {e : Expr} (written : e.Written) (count : Nat) :
    (s.generate e count).1 = (t.generate e count).1 ∧
      (s.generate e count).2.Alike (t.generate e count).2 := by
  have single_too : t.settings.workers ≤ 1 := alike.settings ▸ single
  rw [generate_of_workers_le_one single, generate_of_workers_le_one single_too,
    alike.evaluate count e written, alike.master, alike.pool]
  exact ⟨rfl, alike.settings, rfl, rfl, alike.evaluate⟩

theorem Alike.processAll {s t : Session} (alike : s.Alike t) (single : s.settings.workers ≤ 1)
    {prints : Program}
    (printing : ∀ p ∈ prints, ∃ count e line, p = .print count e line ∧ e.Written) :
    (s.processAll prints).1 = (t.processAll prints).1 ∧
      (s.processAll prints).2.Alike (t.processAll prints).2 := by
  induction prints generalizing s t with
  | nil => exact ⟨rfl, alike⟩
  | cons statement prints ih =>
    obtain ⟨⟨count, e, line, rfl, written⟩, others⟩ := List.forall_mem_cons.1 printing
    obtain ⟨result_eq, still_alike⟩ := alike.generate single written count
    obtain ⟨results_eq, left_alike⟩ := ih still_alike single others
    rw [processAll_cons, processAll_cons, process_print, process_print, result_eq, alike.settings]
    dsimp only
    exact ⟨congrArg _ results_eq, left_alike⟩

/-- A session without rules in which definitions have been made. -/
def defined (settings : Settings) (definitions : List Definition) : Session :=
  { start settings with grammar := History.grammar (definitions.map Definition.entry).reverse }

theorem processAll_definitions (definitions : List Definition) (s : Session) :
    s.processAll (definitions.map Definition.statement) =
      (definitions.map fun _ => .ok none,
        { s with grammar := definitions.foldl (fun g d => g.define d.name d.body) s.grammar }) := by
  induction definitions generalizing s with
  | nil => rfl
  | cons d definitions ih =>
    rw [List.map_cons, processAll_cons, ih]
    rfl

theorem processAll_start (settings : Settings) (definitions : List Definition) :
    (start settings).processAll (definitions.map Definition.statement) =
      (definitions.map fun _ => .ok none, defined settings definitions) := by
  rw [processAll_definitions, defined, History.grammar_reverse, List.foldl_map]
  rfl

theorem alike_defined (settings : Settings) {definitions others : List Definition}
    (perm : definitions.Perm others) (once : (definitions.map Definition.name).Nodup)
    (acyclic : History.Acyclic (definitions.map Definition.entry))
    (written : ∀ d ∈ definitions, d.body.Written) :
    (defined settings definitions).Alike (defined settings others) := by
  refine ⟨rfl, rfl, rfl, fun count e written_down => ?_⟩
  have reverse_perm := List.reverse_perm (definitions.map Definition.entry)
  have same_entries : (definitions.map Definition.entry).reverse.Perm
      (others.map Definition.entry).reverse :=
    reverse_perm.trans ((perm.map Definition.entry).trans (List.reverse_perm _).symm)
  have once_reversed : ((definitions.map Definition.entry).reverse.map Prod.fst).Nodup := by
    rw [List.map_reverse, List.nodup_reverse, List.map_map]
    exact once
  obtain ⟨rank, ranked⟩ := acyclic
  refine History.evaluate_resolve_of_perm same_entries once_reversed
    ⟨rank, ranked.perm reverse_perm.symm⟩ (fun entry mem => ?_) count written_down
  obtain ⟨d, d_mem, rfl⟩ := List.mem_map.1 (List.mem_reverse.1 mem)
  exact written d d_mem

/-- In whatever order definitions are made that are made once and do not lead back to themselves,
the print statements behind them put out the same lines or the same faults, and leave the same
candidates and the same randomness. Bodies and printed expressions are such as the language can write
down: a rule that was resolved beforehand comes about in the grammar only, and one that is made by hand
could contain anything in place of the rule that its name stands for. -/
theorem processAll_of_perm {settings : Settings} (single : settings.workers ≤ 1)
    {definitions others : List Definition} (perm : definitions.Perm others)
    (once : (definitions.map Definition.name).Nodup)
    (acyclic : History.Acyclic (definitions.map Definition.entry))
    (written : ∀ d ∈ definitions, d.body.Written) {prints : Program}
    (printing : ∀ p ∈ prints, ∃ count e line, p = .print count e line ∧ e.Written) :
    let run := fun order : List Definition =>
      (start settings).processAll (order.map Definition.statement ++ prints)
    (run definitions).1 = (run others).1 ∧ (run definitions).2.pool = (run others).2.pool ∧
      (run definitions).2.master = (run others).2.master := by
  intro run
  have alike := alike_defined settings perm once acyclic written
  obtain ⟨results_eq, left⟩ := alike.processAll single printing
  have nothing_put_out : definitions.map (fun _ => Except.ok (ε := Fault) none) =
      others.map fun _ => .ok (none : Option (List String)) := by
    rw [List.map_const', List.map_const', perm.length_eq]
  simp only [run, processAll_append, processAll_start]
  exact ⟨by rw [results_eq, nothing_put_out], left.pool, left.master⟩

/-- A rule that is made from another one, before and behind that, and a rule that is made from
itself. -/
theorem processAll_of_perm_of_forward_reference :
    let greeting : Definition := ⟨"a", .call "append" [.reference "b" 1, .literal (.text "!") 1] 1, 1⟩
    let hey : Definition := ⟨"b", .literal (.text "hey") 2, 2⟩
    let endless : Definition := ⟨"c", .call "append" [.reference "c" 3, .literal (.text "!") 3] 3, 3⟩
    let prints : Program := [.print 1 (.reference "a" 4) 4, .print 1 (.reference "c" 5) 5]
    let results := fun order : List Definition =>
      ((start {}).processAll (order.map Definition.statement ++ prints)).1
    results [greeting, hey, endless] = results [hey, greeting, endless] ∧
      results [hey, greeting, endless] =
        [.ok none, .ok none, .ok none, .ok (some ["hey!"]), .error (.cyclicRule "c" 3)] := by
  intro greeting hey endless prints results
  have only_reference {name other : String} {line : Nat}
      (refers : (Expr.call "append" [.reference other line, .literal (.text "!") line] line).RefersTo
        name) : name = other := by
    cases refers with
    | argument mem inside =>
      rcases List.mem_pair.1 mem with rfl | rfl
      · cases inside
        rfl
      · cases inside
  have ranked : History.RankedBy (fun name => if name = "a" then 1 else 0)
      ([greeting, hey, endless].map Definition.entry) := by
    intro d mem other _ refers others
    simp only [List.map_cons, List.map_nil, List.mem_cons, List.not_mem_nil, or_false] at mem
    rcases mem with rfl | rfl | rfl
    · rw [only_reference refers]
      decide
    · cases refers
    · exact absurd (only_reference refers) others
  have made_of_two (name : String) (line : Nat) :
      (Expr.call "append" [.reference name line, .literal (.text "!") line] line).Written := by
    refine .call "append" (fun e mem => ?_) line
    rcases List.mem_pair.1 mem with rfl | rfl
    · exact .reference name line
    · exact .literal (.text "!") line
  have written : ∀ d ∈ [greeting, hey, endless], d.body.Written :=
    List.forall_mem_cons.2 ⟨made_of_two "b" 1, List.forall_mem_cons.2
      ⟨.literal (.text "hey") 2, List.forall_mem_singleton.2 (made_of_two "c" 3)⟩⟩
  have printing : ∀ p ∈ prints, ∃ count e line, p = .print count e line ∧ e.Written :=
    List.forall_mem_cons.2 ⟨⟨1, _, 4, rfl, .reference "a" 4⟩,
      List.forall_mem_singleton.2 ⟨1, _, 5, rfl, .reference "c" 5⟩⟩
  refine ⟨(processAll_of_perm (le_refl 1) (.swap hey greeting [endless]) (by decide)
    ⟨_, ranked⟩ written printing).1, ?_⟩
  let rules := defined {} [hey, greeting, endless]
  let after := { rules with master := rules.master.fork.2 }
  have first : rules.generate (.reference "a" 4) 1 = (.ok (.constant (.text "hey!") 1), after) := by
    have value : (rules.grammar.resolve (.reference "a" 4)).evaluate rules.grammar 1 [] =
        pure (.constant (.text "hey!") 1) := by
      show (Expr.literal (.text "hey!") 4).evaluate _ 1 [] = _
      rw [Expr.evaluate]
      rfl
    rw [generate_of_workers_le_one (le_refl 1), value]
    rfl
  have second : (after.generate (.reference "c" 5) 1).1 = .error (.cyclicRule "c" 3) := by
    have fault : (after.grammar.resolve (.reference "c" 5)).evaluate after.grammar 1 [] =
        throw (.cyclicRule "c" 3) := by
      show (Expr.rule "c" endless.body 5).evaluate _ 1 [] = _
      rw [Expr.evaluate_rule, Expr.evaluate, Expr.evaluateAll,
        Expr.evaluate_reference _ 1 ["c"] (by decide)]
      rfl
    rw [generate_of_workers_le_one (le_refl 1), fault]
    rfl
  simp only [results, prints, processAll_append, processAll_start, processAll_cons, process_print]
  rw [first, second]
  rfl

end Session

end Phrasemill
