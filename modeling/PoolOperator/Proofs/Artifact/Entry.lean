import PoolOperator.Artifact
import PoolOperator.Proofs.Address.Block

/-!
# Which pools have an entry

A pool has an entry if it has a name, the one protocol there is, and only texts of blocks of
addresses. The entry of such a pool is a copy of what it asks for. Any other pool is refused for the
first of these that it lacks.
-/

namespace PoolOperator

open Text

/-- Whether a text is that of a block of addresses, but for blanks around it. -/
def AddressBlock.IsText (text : String) : Prop :=
  ∃ t block, IsPadded t text.toList ∧ Written t block

theorem AddressBlock.isText_iff {text : String} :
    IsText text ↔ ∃ block, parse text = .ok block := by
  simp only [parse_eq_ok_iff, IsText]
  exact exists_comm

theorem Protocol.ofWord?_eq_none_iff {word : String} :
    Protocol.ofWord? word = none ↔ word ≠ "layer2" := by
  rw [Protocol.ofWord?, ite_eq_right_iff]
  simp only [reduceCtorEq, imp_false, Ne]

namespace PoolEntry

variable {pool : String} {addresses : List String} {p : AddressPool} {e : ArtifactError}

/-- The first thing that is wrong with a pool: its name, its protocol, or one of its addresses, of
which the ones before are in order. -/
inductive FirstFault (p : AddressPool) : ArtifactError → Prop
  | name (h : p.metadata.name = none ∨ p.metadata.name = some "") : FirstFault p .missingName
  | protocol {name : String} (hname : p.metadata.name = some name) (hne : name ≠ "")
      (h : p.spec.protocol ≠ "layer2") :
      FirstFault p (.unsupportedProtocol name p.spec.protocol)
  | address {name bad : String} {before after : List String} {reason : AddressError}
      (hname : p.metadata.name = some name) (hne : name ≠ "")
      (hprotocol : p.spec.protocol = "layer2")
      (haddresses : p.spec.addresses = before ++ bad :: after)
      (hbefore : ∀ address ∈ before, AddressBlock.IsText address)
      (h : AddressBlock.parse bad = .error reason) :
      FirstFault p (.invalidAddress name bad reason.message)

/-! ## The addresses -/

theorem checkAddresses_eq_ok_iff :
    checkAddresses pool addresses = .ok () ↔
      ∀ address ∈ addresses, AddressBlock.IsText address := by
  induction addresses with
  | nil => exact iff_of_true rfl (List.forall_mem_nil _)
  | cons address rest ih =>
    rw [checkAddresses, List.forall_mem_cons, AddressBlock.isText_iff]
    cases AddressBlock.parse address with
    | error reason => exact iff_of_false nofun (by rintro ⟨⟨block, h⟩, -⟩; cases h)
    | ok block =>
      rw [← ih]
      exact (and_iff_right ⟨block, rfl⟩).symm

/-- The check of the addresses fails at the first one that is no text of a block. -/
theorem checkAddresses_eq_error_iff :
    checkAddresses pool addresses = .error e ↔
      ∃ before bad after reason, addresses = before ++ bad :: after ∧
        (∀ address ∈ before, AddressBlock.IsText address) ∧
        AddressBlock.parse bad = .error reason ∧ e = .invalidAddress pool bad reason.message := by
  constructor
  · intro h
    induction addresses with
    | nil => cases h
    | cons address rest ih =>
      rw [checkAddresses] at h
      cases hparse : AddressBlock.parse address with
      | error reason =>
        rw [hparse] at h
        cases h
        exact ⟨[], address, rest, reason, rfl, List.forall_mem_nil _, hparse, rfl⟩
      | ok block =>
        rw [hparse] at h
        obtain ⟨before, bad, after, reason, rfl, hbefore, hbad, rfl⟩ := ih h
        have htext : AddressBlock.IsText address := AddressBlock.isText_iff.mpr ⟨block, hparse⟩
        exact ⟨address :: before, bad, after, reason, rfl,
          List.forall_mem_cons.mpr ⟨htext, hbefore⟩, hbad, rfl⟩
  · rintro ⟨before, bad, after, reason, rfl, hbefore, hbad, rfl⟩
    induction before with
    | nil => rw [List.nil_append, checkAddresses, hbad]
    | cons address before ih =>
      obtain ⟨htext, hbefore⟩ := List.forall_mem_cons.mp hbefore
      obtain ⟨block, hparse⟩ := AddressBlock.isText_iff.mp htext
      rw [List.cons_append, checkAddresses, hparse]
      exact ih hbefore

/-! ## The pool -/

theorem filter_name_eq_some_iff {name : String} :
    p.metadata.name.filter (!·.isEmpty) = some name ↔
      p.metadata.name = some name ∧ name ≠ "" := by
  rw [Option.filter_eq_some_iff]
  simp

theorem filter_name_eq_none_iff :
    p.metadata.name.filter (!·.isEmpty) = none ↔
      p.metadata.name = none ∨ p.metadata.name = some "" := by
  rcases p.metadata.name with _ | name
  · simp
  · simp

theorem unnamed_or_named (p : AddressPool) :
    (p.metadata.name = none ∨ p.metadata.name = some "") ∨
      ∃ name, p.metadata.name = some name ∧ name ≠ "" := by
  rcases p.metadata.name with _ | name
  · exact .inl (.inl rfl)
  · by_cases hne : name = ""
    · exact .inl (.inr (by rw [hne]))
    · exact .inr ⟨name, rfl, hne⟩

theorem ofPool_of_unnamed (h : p.metadata.name = none ∨ p.metadata.name = some "") :
    ofPool p = .error .missingName := by
  rw [ofPool, filter_name_eq_none_iff.mpr h]

theorem ofPool_of_unsupported {name : String} (hname : p.metadata.name = some name)
    (hne : name ≠ "") (h : p.spec.protocol ≠ "layer2") :
    ofPool p = .error (.unsupportedProtocol name p.spec.protocol) := by
  rw [ofPool, filter_name_eq_some_iff.mpr ⟨hname, hne⟩]
  dsimp only
  rw [Protocol.ofWord?_eq_none_iff.mpr h]

/-- With a name and the protocol, all depends on the addresses. -/
theorem ofPool_of_supported {name : String} (hname : p.metadata.name = some name)
    (hne : name ≠ "") (h : p.spec.protocol = "layer2") :
    ofPool p = (checkAddresses name p.spec.addresses).map fun _ => {
      name := name
      protocol := .layer2
      autoAssign := if p.spec.autoAssign = some false then some false else none
      addresses := p.spec.addresses } := by
  have hword : Protocol.ofWord? p.spec.protocol = some .layer2 := Protocol.ofWord?_eq_some.mpr h
  rw [ofPool, filter_name_eq_some_iff.mpr ⟨hname, hne⟩]
  dsimp only
  rw [hword, normalAutoAssign_eq]
  cases checkAddresses name p.spec.addresses <;> rfl

/-- A pool that is in order has the entry that copies it. -/
theorem ofPool_eq_ok_iff {entry : PoolEntry} :
    ofPool p = .ok entry ↔
      ∃ name, p.metadata.name = some name ∧ name ≠ "" ∧ p.spec.protocol = "layer2" ∧
        (∀ address ∈ p.spec.addresses, AddressBlock.IsText address) ∧
        entry = {
          name := name
          protocol := .layer2
          autoAssign := if p.spec.autoAssign = some false then some false else none
          addresses := p.spec.addresses } := by
  constructor
  · intro h
    obtain hunnamed | ⟨name, hname, hne⟩ := unnamed_or_named p
    · rw [ofPool_of_unnamed hunnamed] at h
      cases h
    by_cases hprotocol : p.spec.protocol = "layer2"
    · rw [ofPool_of_supported hname hne hprotocol] at h
      cases hcheck : checkAddresses name p.spec.addresses with
      | error e =>
        rw [hcheck] at h
        cases h
      | ok checked =>
        rw [hcheck] at h
        cases h
        exact ⟨name, hname, hne, hprotocol, checkAddresses_eq_ok_iff.mp hcheck, rfl⟩
    · rw [ofPool_of_unsupported hname hne hprotocol] at h
      cases h
  · rintro ⟨name, hname, hne, hprotocol, haddresses, rfl⟩
    rw [ofPool_of_supported hname hne hprotocol, checkAddresses_eq_ok_iff.mpr haddresses]
    rfl

/-- Any other pool is refused for the first thing that is wrong with it. -/
theorem ofPool_eq_error_iff : ofPool p = .error e ↔ FirstFault p e := by
  constructor
  · intro h
    obtain hunnamed | ⟨name, hname, hne⟩ := unnamed_or_named p
    · rw [ofPool_of_unnamed hunnamed] at h
      cases h
      exact .name hunnamed
    by_cases hprotocol : p.spec.protocol = "layer2"
    · rw [ofPool_of_supported hname hne hprotocol] at h
      cases hcheck : checkAddresses name p.spec.addresses with
      | error found =>
        rw [hcheck] at h
        cases h
        obtain ⟨before, bad, after, reason, haddresses, hbefore, hbad, rfl⟩ :=
          checkAddresses_eq_error_iff.mp hcheck
        exact .address hname hne hprotocol haddresses hbefore hbad
      | ok checked =>
        rw [hcheck] at h
        cases h
    · rw [ofPool_of_unsupported hname hne hprotocol] at h
      cases h
      exact .protocol hname hne hprotocol
  · intro h
    cases h with
    | name h => exact ofPool_of_unnamed h
    | protocol hname hne h => exact ofPool_of_unsupported hname hne h
    | @address name bad before after reason hname hne hprotocol haddresses hbefore h =>
      have hcheck : checkAddresses name p.spec.addresses =
          .error (.invalidAddress name bad reason.message) :=
        checkAddresses_eq_error_iff.mpr
          ⟨before, bad, after, reason, haddresses, hbefore, h, rfl⟩
      rw [ofPool_of_supported hname hne hprotocol, hcheck]
      rfl

/-- **Validation accepts its grammar.** A text is read as a block exactly if it is written for it. A
pool has an entry exactly if it has a name, the protocol and such addresses only, and the entry
copies them; it is refused with an error exactly if that is about the first thing that is wrong
with it. -/
theorem validation_accepts_grammar :
    (∀ (text : String) (block : AddressBlock), AddressBlock.parse text = .ok block ↔
      ∃ t, IsPadded t text.toList ∧ AddressBlock.Written t block) ∧
    (∀ (p : AddressPool) (entry : PoolEntry), ofPool p = .ok entry ↔
      ∃ name, p.metadata.name = some name ∧ name ≠ "" ∧ p.spec.protocol = "layer2" ∧
        (∀ address ∈ p.spec.addresses, AddressBlock.IsText address) ∧
        entry = {
          name := name
          protocol := .layer2
          autoAssign := if p.spec.autoAssign = some false then some false else none
          addresses := p.spec.addresses }) ∧
    ∀ (p : AddressPool) (e : ArtifactError), ofPool p = .error e ↔ FirstFault p e :=
  ⟨fun _ _ => AddressBlock.parse_eq_ok_iff, fun _ _ => ofPool_eq_ok_iff,
    fun _ _ => ofPool_eq_error_iff⟩

end PoolEntry

end PoolOperator
