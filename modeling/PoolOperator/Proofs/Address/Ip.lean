import PoolOperator.Proofs.Text.Blank
import PoolOperator.Address.Ip

/-!
# The characters of addresses

The readers of addresses take hexadecimal digits, dots and colons only. So no part of the text of an
address is a blank, and none separates the parts of a block of addresses.
-/

namespace PoolOperator.IpAddress

open Text

variable {cs rest : List Char} {base : Nat}

/-- Whether a character may stand in the text of an address. -/
def isAddressChar (c : Char) : Bool := (digit? 16 c).isSome || c == '.' || c == ':'

/-- Whether address characters are all that is taken from a text to leave another one. -/
def Leaves (cs rest : List Char) : Prop :=
  ∃ taken, cs = taken ++ rest ∧ ∀ c ∈ taken, isAddressChar c = true

theorem Leaves.refl (cs : List Char) : Leaves cs cs := ⟨[], rfl, List.forall_mem_nil _⟩

theorem Leaves.trans {mid : List Char} (h : Leaves cs mid) (h' : Leaves mid rest) :
    Leaves cs rest := by
  obtain ⟨taken, rfl, htaken⟩ := h
  obtain ⟨more, rfl, hmore⟩ := h'
  exact ⟨taken ++ more, (List.append_assoc ..).symm, List.forall_mem_append.mpr ⟨htaken, hmore⟩⟩

theorem Leaves.cons {c : Char} (hc : isAddressChar c = true) (h : Leaves cs rest) :
    Leaves (c :: cs) rest := by
  obtain ⟨taken, rfl, htaken⟩ := h
  exact ⟨c :: taken, rfl, List.forall_mem_cons.mpr ⟨hc, htaken⟩⟩

/-- Where the digits of all bases are among the characters. -/
theorem toNat_of_digit? {c : Char} {d : Nat} (h : digit? base c = some d) :
    (48 ≤ c.toNat ∧ c.toNat ≤ 57) ∨ (97 ≤ c.toNat ∧ c.toNat ≤ 102) ∨
      (65 ≤ c.toNat ∧ c.toNat ≤ 70) := by
  by_contra hno
  simp only [not_or] at hno
  obtain ⟨hdecimal, hlower, hupper⟩ := hno
  rw [digit?, if_neg hdecimal, if_neg hlower, if_neg hupper, if_neg (Nat.lt_irrefl base)] at h
  cases h

/-- The digits of all bases are hexadecimal digits. -/
theorem isAddressChar_of_digit? {c : Char} {d : Nat} (h : digit? base c = some d) :
    isAddressChar c = true := by
  have hhex : (digit? 16 c).isSome = true := by
    have hplace := toNat_of_digit? h
    simp only [digit?]
    grind
  rw [isAddressChar, hhex]
  rfl

/-! ## The readers -/

theorem leaves_spanDigits (base : Nat) (cs : List Char) : Leaves cs (spanDigits base cs).2 := by
  induction cs with
  | nil => exact .refl []
  | cons c cs ih =>
    rw [spanDigits]
    split
    · exact .refl _
    · rename_i hdigit
      exact .cons (isAddressChar_of_digit? hdigit) ih

theorem leaves_readOctet? {n : Nat} (h : readOctet? cs = some (n, rest)) : Leaves cs rest := by
  simp only [readOctet?, Option.ite_none_left_eq_some, Option.some.injEq, Prod.mk.injEq] at h
  obtain ⟨-, -, -, -, rfl⟩ := h
  exact leaves_spanDigits 10 cs

theorem leaves_readGroup? {n : Nat} (h : readGroup? cs = some (n, rest)) : Leaves cs rest := by
  simp only [readGroup?, Option.ite_none_left_eq_some, Option.some.injEq, Prod.mk.injEq] at h
  obtain ⟨-, -, rfl⟩ := h
  exact leaves_spanDigits 16 cs

theorem leaves_readChar? {c : Char} (hc : isAddressChar c = true)
    (h : readChar? c cs = some rest) : Leaves cs rest := by
  cases cs with
  | nil => cases h
  | cons d cs =>
    rw [readChar?, Option.ite_none_right_eq_some, Option.some.injEq] at h
    obtain ⟨rfl, rfl⟩ := h
    exact .cons hc (.refl cs)

theorem leaves_readV4? {bits : BitVec 32} (h : readV4? cs = some (bits, rest)) :
    Leaves cs rest := by
  have hdot : isAddressChar '.' = true := by decide
  simp only [readV4?, bind, Option.bind_eq_some_iff, Prod.exists, pure, Option.some.injEq,
    Prod.mk.injEq] at h
  obtain ⟨_, _, ha, _, ha', _, _, hb, _, hb', _, _, hc, _, hc', _, _, hd, -, rfl⟩ := h
  exact (leaves_readOctet? ha).trans <| (leaves_readChar? hdot ha').trans <|
    (leaves_readOctet? hb).trans <| (leaves_readChar? hdot hb').trans <|
    (leaves_readOctet? hc).trans <| (leaves_readChar? hdot hc').trans (leaves_readOctet? hd)

theorem leaves_readGroups (first : Bool) (room : Nat) (cs : List Char) :
    Leaves cs (readGroups first room cs).rest := by
  have hcolon : isAddressChar ':' = true := by decide
  induction room generalizing first cs with
  | zero => exact .refl cs
  | succ room ih =>
    rw [readGroups]
    split
    · exact .refl cs
    · rename_i body hbody
      have hstart : Leaves cs body := by
        split at hbody
        · cases hbody
          exact .refl cs
        · exact leaves_readChar? hcolon hbody
      split
      · rename_i hdotted
        rw [Option.ite_none_left_eq_some] at hdotted
        exact hstart.trans (leaves_readV4? hdotted.2)
      · split
        · exact .refl cs
        · rename_i hgroup
          exact hstart.trans ((leaves_readGroup? hgroup).trans (ih false _))

theorem leaves_readV6? {bits : BitVec 128} (h : readV6? cs = some (bits, rest)) :
    Leaves cs rest := by
  have hcolon : isAddressChar ':' = true := by decide
  have hfront := leaves_readGroups true 8 cs
  simp only [readV6?] at h
  split at h
  · cases h
    exact hfront
  · split at h
    · cases h
    · simp only [bind, Option.bind_eq_some_iff, pure, Option.some.injEq, Prod.mk.injEq] at h
      obtain ⟨_, ha, _, hb, -, rfl⟩ := h
      exact hfront.trans <| (leaves_readChar? hcolon ha).trans <|
        (leaves_readChar? hcolon hb).trans (leaves_readGroups true _ _)

/-! ## Whole texts -/

/-- The text of an address has address characters only. -/
theorem isAddressChar_of_parse? {ip : IpAddress} (h : parse? cs = some ip) {c : Char}
    (hc : c ∈ cs) : isAddressChar c = true := by
  have hleaves : Leaves cs [] := by
    unfold parse? at h
    split at h
    · rename_i hread
      obtain ⟨hrest, -⟩ := Option.ite_none_right_eq_some.mp h
      rw [← List.isEmpty_iff.mp hrest]
      exact leaves_readV4? hread
    · split at h
      · rename_i hread
        obtain ⟨hrest, -⟩ := Option.ite_none_right_eq_some.mp h
        rw [← List.isEmpty_iff.mp hrest]
        exact leaves_readV6? hread
      · cases h
  obtain ⟨taken, rfl, htaken⟩ := hleaves
  rw [List.append_nil] at hc
  exact htaken c hc

theorem ne_nil_of_parse? {ip : IpAddress} (h : parse? cs = some ip) : cs ≠ [] := by
  rintro rfl
  cases h

/-- There is no blank in the text of an address. -/
theorem isTrimmed_of_parse? {ip : IpAddress} (h : parse? cs = some ip) : IsTrimmed cs := by
  refine isTrimmed_of_forall fun c hc => ?_
  have hchar := isAddressChar_of_parse? h hc
  simp only [isAddressChar, Bool.or_eq_true, beq_iff_eq, Option.isSome_iff_exists] at hchar
  obtain ⟨⟨d, hd⟩ | rfl⟩ | rfl := hchar
  · have hplace := toNat_of_digit? hd
    exact isBlank_eq_false_of_toNat (by omega) (by omega)
  · decide
  · decide

/-- No separator of the parts of a block stands in the text of an address. -/
theorem notMem_of_parse? {ip : IpAddress} {sep : Char} (hsep : isAddressChar sep = false)
    (h : parse? cs = some ip) : sep ∉ cs := by
  intro hmem
  rw [isAddressChar_of_parse? h hmem] at hsep
  cases hsep

end PoolOperator.IpAddress
