import Mathlib
import Phrasemill.Proofs.Except
import Phrasemill.Proofs.Syntax.Readers

/-!
# Reading one token after the other

A reader has to decide with every token whether to go on. It does so by the tokens it has taken and
the next one, and never comes back to a decision (`Reader.Incremental`): what it has taken it takes
in front of other tokens too, unless the next one is another, and a fault with a token is found
whatever stands behind that token, but not before it is read. As long as there is no fault with a
token, something can be written behind the tokens that brings the reader to a result.

Readers that are run one after the other read incrementally if each of them does. What may stand
behind the first one, so that it stops there, has to be the beginning of the second.
-/

namespace Phrasemill

/-- The token that a fault is about, if it is about one. -/
def SyntaxFault.blamed? : SyntaxFault → Option LocatedToken
  | unexpected (.expression found) line => some (found, line)
  | unexpected (.statement found) line => some (found, line)
  | unexpected (.insteadOf _ found) line => some (found, line)
  | printCount found line => some (found, line)
  | _ => none

theorem SyntaxFault.line_of_blamed? {fault : SyntaxFault} {token : Token} {line : Nat}
    (blamed : fault.blamed? = some (token, line)) : fault.line = line := by
  cases fault with
  | unexpected surprise at_line => cases surprise <;> simp_all [blamed?, SyntaxFault.line]
  | printCount found at_line => simp_all [blamed?, SyntaxFault.line]
  | _ => simp [blamed?] at blamed

/-- The list ends, or its first token is that of the other. -/
def GoesOnLike (more rest : List LocatedToken) : Prop := more = [] ∨ more.head? = rest.head?

namespace GoesOnLike

variable {more rest : List LocatedToken}

theorem append_left (h : GoesOnLike more rest) (used : List LocatedToken) :
    GoesOnLike (used ++ more) (used ++ rest) := by
  cases used with
  | nil => exact h
  | cons token used => exact .inr rfl

theorem append_right (used rest : List LocatedToken) : GoesOnLike used (used ++ rest) := by
  cases used with
  | nil => exact .inl rfl
  | cons token used => exact .inr rfl

theorem of_ne_nil (some_token : rest ≠ []) (more : List LocatedToken) :
    GoesOnLike (rest ++ more) rest := by
  cases rest with
  | nil => exact absurd rfl some_token
  | cons token rest => exact .inr rfl

theorem eq_nil (h : GoesOnLike more []) : more = [] := by simpa [GoesOnLike] using h

theorem eq_cons {token : LocatedToken} (h : GoesOnLike more (token :: rest)) :
    more = [] ∨ ∃ more', more = token :: more' := by
  cases more with
  | nil => exact .inl rfl
  | cons token' more' =>
    have same : token' = token := by simpa [GoesOnLike] using h
    exact .inr ⟨more', by rw [same]⟩

end GoesOnLike

/-- What takes tokens from the front of a list and comes to a value. -/
abbrev Reader (α : Type) := List LocatedToken → Except SyntaxFault (α × List LocatedToken)

namespace Reader

variable {α β : Type}

/-- Reads nothing. -/
def done (a : α) : Reader α := fun tokens => .ok (a, tokens)

/-- Reads on where the first reader has stopped. -/
def andThen (read : Reader α) (next : α → Reader β) : Reader β := fun tokens =>
  read tokens >>= fun r => next r.1 r.2

theorem andThen_of_ok {read : Reader α} {tokens rest : List LocatedToken} {a : α}
    (h : read tokens = .ok (a, rest)) (next : α → Reader β) :
    read.andThen next tokens = next a rest := by
  rw [andThen, h, ok_bind]

theorem andThen_of_error {read : Reader α} {tokens : List LocatedToken} {fault : SyntaxFault}
    (h : read tokens = .error fault) (next : α → Reader β) :
    read.andThen next tokens = .error fault := by
  rw [andThen, h]
  rfl

/-! ### Faults with a token -/

/-- There is no fault with any of the tokens: the reader takes them all, and at most wants more. -/
def Exhausts (read : Reader α) (tokens : List LocatedToken) : Prop :=
  (∃ line, read tokens = .error (.endOfInput line)) ∨ ∃ a, read tokens = .ok (a, [])

/-- Behind the tokens `used`, with which there is no fault, the token always leads to the fault, and
the fault says so. -/
structure SpoiledBy (read : Reader α) (fault : SyntaxFault) (used : List LocatedToken)
    (token : LocatedToken) : Prop where
  blamed : fault.blamed? = some token
  before : read.Exhausts used
  always : ∀ more, read (used ++ token :: more) = .error fault

/-- The tokens are read incrementally, up to something that `follow` allows behind them. -/
structure Incremental (follow : List LocatedToken → Prop) (read : Reader α)
    (tokens : List LocatedToken) : Prop where
  result : ∀ a rest, read tokens = .ok (a, rest) →
    ∃ used, tokens = used ++ rest ∧
      ∀ more, GoesOnLike more rest → read (used ++ more) = .ok (a, more)
  fault : ∀ fault, read tokens = .error fault →
    (∃ line, fault = .endOfInput line) ∨
      ∃ used token rest, tokens = used ++ token :: rest ∧ read.SpoiledBy fault used token
  completes : read.Exhausts tokens →
    ∃ more a, ∀ rest, follow rest → read (tokens ++ (more ++ rest)) = .ok (a, rest)

/-- The reader can begin at the end of the tokens: it wants no token in particular that is missing
before, and the tokens that bring it to a result are allowed there. -/
structure Resumes (before follow : List LocatedToken → Prop) (read : Reader α) : Prop where
  exhausts : read.Exhausts []
  completes : ∃ more a, ∀ rest, follow rest →
    before (more ++ rest) ∧ read (more ++ rest) = .ok (a, rest)

/-- The reader stops without a look at what comes behind. -/
def Anything (_ : List LocatedToken) : Prop := True

variable {before middle follow : List LocatedToken → Prop} {read read' : Reader α}
  {next : α → Reader β} {first : LocatedToken} {tokens : List LocatedToken}

theorem exhausts_nil_of_result {a : α} {rest : List LocatedToken} (h : read.Exhausts tokens)
    (result : read tokens = .ok (a, rest)) : rest = [] := by
  obtain ⟨line, ended⟩ | ⟨b, taken⟩ := h
  · rw [result] at ended
    cases ended
  · rw [result] at taken
    cases taken
    rfl

theorem exhausts_of_fault {fault : SyntaxFault} (h : read.Exhausts tokens)
    (faulty : read tokens = .error fault) : ∃ line, fault = .endOfInput line := by
  obtain ⟨line, ended⟩ | ⟨b, taken⟩ := h
  · rw [faulty] at ended
    exact ⟨line, Except.error.inj ended⟩
  · rw [faulty] at taken
    cases taken

/-! ### Readers that decide at once -/

theorem resumes_done (a : α) (allowed : ∀ rest, follow rest → before rest) :
    Resumes before follow (done a) :=
  ⟨.inr ⟨a, rfl⟩, [], a, fun rest follows => ⟨allowed rest follows, rfl⟩⟩

theorem incremental_done (a : α) (tokens : List LocatedToken) :
    Incremental follow (done a) tokens where
  result := by
    rintro _ _ ⟨⟩
    exact ⟨[], rfl, fun more _ => rfl⟩
  fault := nofun
  completes exhausts := by
    cases exhausts_nil_of_result exhausts rfl
    exact ⟨[], a, fun rest _ => rfl⟩

theorem Resumes.incremental (h : Resumes before follow read) : Incremental follow read [] where
  result a rest result := by
    cases exhausts_nil_of_result h.exhausts result
    refine ⟨[], rfl, fun more alike => ?_⟩
    rw [alike.eq_nil]
    exact result
  fault fault faulty := .inl (exhausts_of_fault h.exhausts faulty)
  completes _ := by
    obtain ⟨more, a, completes⟩ := h.completes
    exact ⟨more, a, fun rest follows => (completes rest follows).2⟩

/-- The first token is not taken. -/
theorem incremental_stop {a : α} (at_end : read [] = .ok (a, []))
    (stops : ∀ rest, read (first :: rest) = .ok (a, first :: rest)) :
    Incremental follow read (first :: tokens) where
  result b rest result := by
    rw [stops] at result
    cases result
    refine ⟨[], rfl, fun more alike => ?_⟩
    obtain rfl | ⟨more, rfl⟩ := alike.eq_cons
    · exact at_end
    · exact stops more
  fault fault faulty := by
    rw [stops] at faulty
    cases faulty
  completes exhausts := nomatch exhausts_nil_of_result exhausts (stops tokens)

/-- The first token is wrong. -/
theorem incremental_blame {fault : SyntaxFault} (at_end : read.Exhausts [])
    (blamed : fault.blamed? = some first) (refuses : ∀ rest, read (first :: rest) = .error fault) :
    Incremental follow read (first :: tokens) where
  result a rest result := by
    rw [refuses] at result
    cases result
  fault fault' faulty := by
    rw [refuses] at faulty
    cases faulty
    exact .inr ⟨[], first, tokens, rfl, blamed, at_end, refuses⟩
  completes exhausts := by
    obtain ⟨line, rfl⟩ := exhausts_of_fault exhausts (refuses tokens)
    cases blamed

/-- The first token is taken, and the second reader reads on. -/
theorem Incremental.behind (h : Incremental follow read' tokens)
    (takes : ∀ rest, read (first :: rest) = read' rest) :
    Incremental follow read (first :: tokens) where
  result a rest result := by
    rw [takes] at result
    obtain ⟨used, rfl, stays⟩ := h.result a rest result
    refine ⟨first :: used, rfl, fun more alike => ?_⟩
    rw [List.cons_append, takes]
    exact stays more alike
  fault fault faulty := by
    rw [takes] at faulty
    refine (h.fault fault faulty).imp_right ?_
    rintro ⟨used, token, rest, rfl, blamed, exhausts, always⟩
    refine ⟨first :: used, token, rest, rfl, blamed, ?_, fun more => ?_⟩
    · rw [Exhausts, takes]
      exact exhausts
    · rw [List.cons_append, takes]
      exact always more
  completes exhausts := by
    rw [Exhausts, takes] at exhausts
    obtain ⟨more, a, completes⟩ := h.completes exhausts
    refine ⟨more, a, fun rest follows => ?_⟩
    rw [List.cons_append, takes]
    exact completes rest follows

/-- With this first token, which it takes, the other reader does the same. -/
theorem Incremental.congr (h : Incremental follow read' (first :: tokens))
    (same : ∀ rest, read (first :: rest) = read' (first :: rest)) (at_end : read.Exhausts [])
    (takes : ∀ a, read' (first :: tokens) ≠ .ok (a, first :: tokens)) :
    Incremental follow read (first :: tokens) where
  result a rest result := by
    rw [same] at result
    obtain ⟨used, split, stays⟩ := h.result a rest result
    cases used with
    | nil =>
      rw [List.nil_append] at split
      subst split
      exact absurd result (takes a)
    | cons token used =>
      cases split
      refine ⟨first :: used, rfl, fun more alike => ?_⟩
      rw [List.cons_append, same]
      exact stays more alike
  fault fault faulty := by
    rw [same] at faulty
    refine (h.fault fault faulty).imp_right ?_
    rintro ⟨used, token, rest, split, blamed, exhausts, always⟩
    refine ⟨used, token, rest, split, blamed, ?_, fun more => ?_⟩
    · cases used with
      | nil => exact at_end
      | cons _ used =>
        cases split
        rw [Exhausts, same]
        exact exhausts
    · cases used with
      | nil =>
        cases split
        exact (same more).trans (always more)
      | cons _ used =>
        cases split
        exact (same _).trans (always more)
  completes exhausts := by
    rw [Exhausts, same] at exhausts
    obtain ⟨more, a, completes⟩ := h.completes exhausts
    exact ⟨more, a, fun rest follows => (same _).trans (completes rest follows)⟩

/-! ### One reader after the other -/

theorem Exhausts.andThen (h : read.Exhausts tokens) (next_exhausts : ∀ a, (next a).Exhausts []) :
    (read.andThen next).Exhausts tokens := by
  obtain ⟨line, ended⟩ | ⟨a, taken⟩ := h
  · exact .inl ⟨line, andThen_of_error ended next⟩
  · rw [Exhausts, andThen_of_ok taken]
    exact next_exhausts a

theorem Exhausts.of_andThen (h : (read.andThen next).Exhausts tokens) :
    read.Exhausts tokens ∨
      ∃ a rest, read tokens = .ok (a, rest) ∧ rest ≠ [] ∧ (next a).Exhausts rest := by
  cases taken : read tokens with
  | error fault =>
    have ended := andThen_of_error taken next
    obtain ⟨line, rfl⟩ := exhausts_of_fault h ended
    exact .inl (.inl ⟨line, taken⟩)
  | ok r =>
    obtain ⟨a, rest⟩ := r
    cases rest with
    | nil => exact .inl (.inr ⟨a, taken⟩)
    | cons token rest =>
      rw [Exhausts, andThen_of_ok taken] at h
      exact .inr ⟨a, _, rfl, List.cons_ne_nil token rest, h⟩

theorem Resumes.andThen (h : Resumes before middle read)
    (resumes : ∀ a, Resumes middle follow (next a)) : Resumes before follow (read.andThen next) := by
  refine ⟨h.exhausts.andThen fun a => (resumes a).exhausts, ?_⟩
  obtain ⟨more, a, completes⟩ := h.completes
  obtain ⟨more', b, completes'⟩ := (resumes a).completes
  refine ⟨more ++ more', b, fun rest follows => ?_⟩
  obtain ⟨allowed', taken'⟩ := completes' rest follows
  obtain ⟨allowed, taken⟩ := completes _ allowed'
  rw [List.append_assoc, andThen_of_ok taken]
  exact ⟨allowed, taken'⟩

theorem Incremental.andThen (h : Incremental middle read tokens)
    (then_next : ∀ a rest, read tokens = .ok (a, rest) → Incremental follow (next a) rest)
    (resumes : ∀ a, Resumes middle follow (next a)) :
    Incremental follow (read.andThen next) tokens where
  result b rest' whole := by
    obtain ⟨⟨a, rest⟩, taken, result⟩ := bind_eq_ok_iff.1 whole
    obtain ⟨used, rfl, stays⟩ := h.result a rest taken
    obtain ⟨used', rfl, stays'⟩ := (then_next a rest taken).result b rest' result
    refine ⟨used ++ used', (List.append_assoc _ _ _).symm, fun more alike => ?_⟩
    rw [List.append_assoc, andThen_of_ok (stays _ (alike.append_left used'))]
    exact stays' more alike
  fault fault faulty := by
    cases taken : read tokens with
    | error fault' =>
      rw [andThen_of_error taken] at faulty
      cases faulty
      refine (h.fault fault taken).imp_right ?_
      rintro ⟨used, token, rest, split, blamed, exhausts, always⟩
      exact ⟨used, token, rest, split, blamed, exhausts.andThen fun a => (resumes a).exhausts,
        fun more => andThen_of_error (always more) next⟩
    | ok r =>
      obtain ⟨a, rest⟩ := r
      rw [andThen_of_ok taken] at faulty
      obtain ⟨used, rfl, stays⟩ := h.result a rest taken
      refine ((then_next a rest taken).fault fault faulty).imp_right ?_
      rintro ⟨used', token, rest', rfl, blamed, exhausts, always⟩
      refine ⟨used ++ used', token, rest', (List.append_assoc _ _ _).symm, blamed, ?_,
        fun more => ?_⟩
      · rw [Exhausts, andThen_of_ok (stays _ (GoesOnLike.append_right used' _))]
        exact exhausts
      · have alike : GoesOnLike (token :: more) (token :: rest') := .inr rfl
        rw [List.append_assoc, andThen_of_ok (stays _ (alike.append_left used'))]
        exact always more
  completes exhausts := by
    obtain exhausts | ⟨a, rest, taken, some_token, exhausts⟩ := exhausts.of_andThen
    · -- The first reader may yet go on. Its result is completed, and the second begins there.
      obtain ⟨more, a, completes⟩ := h.completes exhausts
      obtain ⟨more', b, completes'⟩ := (resumes a).completes
      refine ⟨more ++ more', b, fun rest follows => ?_⟩
      obtain ⟨allowed, taken⟩ := completes' rest follows
      rw [List.append_assoc, andThen_of_ok (completes _ allowed)]
      exact taken
    · obtain ⟨more, b, completes⟩ := (then_next a rest taken).completes exhausts
      obtain ⟨used, rfl, stays⟩ := h.result a rest taken
      refine ⟨more, b, fun rest' follows => ?_⟩
      rw [List.append_assoc, andThen_of_ok (stays _ (GoesOnLike.of_ne_nil some_token _))]
      exact completes rest' follows

theorem Incremental.resumes (h : Incremental follow read []) : Resumes Anything follow read := by
  have exhausts : read.Exhausts [] := by
    cases taken : read [] with
    | error fault =>
      obtain ⟨line, rfl⟩ | ⟨used, token, rest, split, -⟩ := h.fault fault taken
      · exact .inl ⟨line, taken⟩
      · simp at split
    | ok r =>
      obtain ⟨a, rest⟩ := r
      obtain ⟨used, split, -⟩ := h.result a rest taken
      obtain ⟨-, rfl⟩ := List.nil_eq_append_iff.1 split
      exact .inr ⟨a, taken⟩
  obtain ⟨more, a, completes⟩ := h.completes exhausts
  exact ⟨exhausts, more, a, fun rest follows => ⟨trivial, completes rest follows⟩⟩

/-- The first reader does not look at what stands behind what it takes. -/
theorem Incremental.andThen_of_anything (h : Incremental Anything read tokens)
    (then_next : ∀ a rest, rest.length ≤ tokens.length → Incremental follow (next a) rest) :
    Incremental follow (read.andThen next) tokens := by
  refine h.andThen (fun a rest taken => then_next a rest ?_) fun a =>
    (then_next a [] (Nat.zero_le _)).resumes
  obtain ⟨used, rfl, -⟩ := h.result a rest taken
  simp

theorem Incremental.andThen_done (h : Incremental middle read tokens) (f : α → β)
    (allowed : ∀ rest, follow rest → middle rest) :
    Incremental follow (read.andThen fun a => done (f a)) tokens :=
  h.andThen (fun a rest _ => incremental_done (f a) rest) fun a => resumes_done (f a) allowed

/-! ### Single tokens -/

/-- The reader takes one token, or finds fault with it. -/
structure TakesOne (read : Reader α) : Prop where
  at_end : ∃ line, read [] = .error (.endOfInput line)
  decides : ∀ first, (∃ a, ∀ rest, read (first :: rest) = .ok (a, rest)) ∨
    ∃ fault, fault.blamed? = some first ∧ ∀ rest, read (first :: rest) = .error fault
  accepts : ∃ first a, ∀ rest, read (first :: rest) = .ok (a, rest)

theorem TakesOne.resumes (h : read.TakesOne) : Resumes Anything follow read := by
  obtain ⟨first, a, takes⟩ := h.accepts
  exact ⟨.inl h.at_end, [first], a, fun rest _ => ⟨trivial, takes rest⟩⟩

theorem TakesOne.incremental (h : read.TakesOne) (tokens : List LocatedToken) :
    Incremental follow read tokens := by
  cases tokens with
  | nil => exact h.resumes.incremental
  | cons first tokens =>
    obtain ⟨a, takes⟩ | ⟨fault, blamed, refuses⟩ := h.decides first
    · exact (incremental_done a tokens).behind takes
    · exact incremental_blame (.inl h.at_end) blamed refuses

/-- A reader of one token ends too early only where there is none. -/
theorem TakesOne.eq_nil (h : read.TakesOne) {line : Nat}
    (ended : read tokens = .error (.endOfInput line)) : tokens = [] := by
  cases tokens with
  | nil => rfl
  | cons first rest =>
    obtain ⟨a, takes⟩ | ⟨fault, blamed, refuses⟩ := h.decides first
    · rw [takes] at ended
      cases ended
    · rw [refuses] at ended
      cases ended
      cases blamed

end Reader

end Phrasemill
