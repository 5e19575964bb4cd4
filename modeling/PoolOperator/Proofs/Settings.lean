import PoolOperator.Proofs.Text.Numeral
import PoolOperator.Settings

/-!
# Which settings are read

Settings are accepted just if every variable that is set is well-formed and the values fit together.
A number or an address that is not set has its default, and one that is set is what is written. The
namespace is another matter: a blank one stands for the default, even where another one is named.
-/

namespace PoolOperator.Settings

variable {lookup lookup' : String → Option String} {s : Settings}

/-! ## Computations that may fail -/

section Except

variable {ε α β : Type} {x : Except ε α} {f : α → Except ε β} {e : ε} {a : α} {b : β}

/-- A computation that goes on with a value succeeds if both parts do. -/
theorem bind_eq_ok_iff : (x >>= f) = .ok b ↔ ∃ a, x = .ok a ∧ f a = .ok b := by
  cases x with
  | error e => exact ⟨nofun, nofun⟩
  | ok a =>
    refine ⟨fun h => ⟨a, rfl, h⟩, ?_⟩
    rintro ⟨_, ⟨⟩, h⟩
    exact h

/-- A check that refuses succeeds if it does not refuse and what follows does. -/
theorem ite_error_eq_ok_iff {p : Prop} [Decidable p] :
    (if p then .error e else x) = .ok a ↔ ¬p ∧ x = .ok a := by
  by_cases hp : p <;> simp [hp]

/-- A computation that goes on with a value is mapped where it ends. -/
theorem map_bind {γ : Type} (g : β → γ) (x : Except ε α) (f : α → Except ε β) :
    (x >>= f).map g = x >>= fun a => (f a).map g := by
  cases x <;> rfl

end Except

/-! ## Single variables -/

/-- The number that a variable stands for: the default if it is not set, and otherwise the number of
its numeral, which may have blanks around it. -/
inductive IsWord (greatest default : Nat) : Option String → Nat → Prop
  | unset : IsWord greatest default none default
  | set {raw : String} {n : Nat} (hnumeral : Text.Numeral (Text.trim raw.toList) n)
      (hle : n ≤ greatest) : IsWord greatest default (some raw) n

/-- The default address for probes. -/
def defaultAddress : SocketAddress := ⟨.v4 0, 0, 8081⟩

/-- The address that a variable stands for: the default if it is not set, and otherwise the one that
is written there. -/
inductive IsAddress : Option String → SocketAddress → Prop
  | unset : IsAddress none defaultAddress
  | set {raw : String} {address : SocketAddress} (h : SocketAddress.parse? raw = some address) :
      IsAddress (some raw) address

theorem IsWord.le {greatest default n : Nat} {value : Option String}
    (h : IsWord greatest default value n) (hdefault : default ≤ greatest) : n ≤ greatest := by
  cases h with
  | unset => exact hdefault
  | set hnumeral hle => exact hle

theorem readWord_eq_ok_iff {key : String} {greatest default n : Nat} :
    readWord lookup key greatest default = .ok n ↔ IsWord greatest default (lookup key) n := by
  unfold readWord
  cases lookup key with
  | none =>
    constructor
    · rintro ⟨⟩
      exact .unset
    · rintro ⟨⟩
      rfl
  | some raw =>
    have hread : Text.readNumeral greatest (Text.trim raw.toList) = .ok n ↔
        IsWord greatest default (some raw) n := by
      rw [Text.readNumeral_eq_ok_iff]
      refine ⟨fun h => .set h.1 h.2, ?_⟩
      rintro (_ | ⟨hnumeral, hle⟩)
      exact ⟨hnumeral, hle⟩
    rw [← hread]
    dsimp only
    cases Text.readNumeral greatest (Text.trim raw.toList) with
    | ok m => rw [Except.ok.injEq, Except.ok.injEq]
    | error cause => exact ⟨nofun, nofun⟩

theorem parse?_defaultBindAddress :
    SocketAddress.parse? defaultBindAddress = some defaultAddress := by decide +kernel

theorem isAddress_iff {value : Option String} {address : SocketAddress} :
    IsAddress value address ↔
      SocketAddress.parse? (value.getD defaultBindAddress) = some address := by
  cases value with
  | none =>
    rw [Option.getD_none, parse?_defaultBindAddress, Option.some_inj]
    constructor
    · rintro ⟨⟩
      rfl
    · rintro rfl
      exact .unset
  | some raw =>
    refine ⟨?_, .set⟩
    rintro (_ | h)
    exact h

theorem readBindAddress_eq_ok_iff {address : SocketAddress} :
    readBindAddress lookup = .ok address ↔
      IsAddress (lookup "HEALTH_PROBE_BIND_ADDRESS") address := by
  rw [isAddress_iff]
  unfold readBindAddress
  dsimp only
  cases SocketAddress.parse? _ with
  | none => exact ⟨nofun, nofun⟩
  | some found => rw [Except.ok.injEq, Option.some_inj]

/-! ## All variables -/

/-- Whether settings are what the variables say, each of them by itself. -/
structure IsReadFrom (s : Settings) (lookup : String → Option String) : Prop where
  ns : s.ns = readNs lookup
  resync : IsWord Text.maxWord64 300 (lookup "RESYNC_INTERVAL_SECS") s.resync.toNat
  maxAttempts : IsWord Text.maxWord32 5 (lookup "MAX_CONFLICT_RETRIES") s.maxAttempts.toNat
  backoffLeast : IsWord Text.maxWord64 1 (lookup "BACKOFF_MIN_SECS") s.backoffLeast.toNat
  backoffGreatest : IsWord Text.maxWord64 60 (lookup "BACKOFF_MAX_SECS") s.backoffGreatest.toNat
  bindAddress : IsAddress (lookup "HEALTH_PROBE_BIND_ADDRESS") s.bindAddress

/-- Whether the values of settings fit together. -/
structure IsSound (s : Settings) : Prop where
  resync : 0 < s.resync.toNat
  maxAttempts : 0 < s.maxAttempts.toNat
  backoffLeast : 0 < s.backoffLeast.toNat
  backoff_le : s.backoffLeast.toNat ≤ s.backoffGreatest.toNat

/-- A number in range is the value of its word. -/
theorem toNat_ofNat64 {n : Nat} (h : n ≤ Text.maxWord64) : (UInt64.ofNat n).toNat = n :=
  UInt64.toNat_ofNat_of_lt' (Nat.lt_of_le_pred (by decide) h)

@[inherit_doc toNat_ofNat64]
theorem toNat_ofNat32 {n : Nat} (h : n ≤ Text.maxWord32) : (UInt32.ofNat n).toNat = n :=
  UInt32.toNat_ofNat_of_lt' (Nat.lt_of_le_pred (by decide) h)

/-- **Settings are accepted** just if they are what the variables say and fit together. -/
theorem read_eq_ok_iff : read lookup = .ok s ↔ s.IsReadFrom lookup ∧ s.IsSound := by
  constructor
  · intro h
    obtain ⟨resync, hresync, h⟩ := bind_eq_ok_iff.mp h
    obtain ⟨maxAttempts, hmaxAttempts, h⟩ := bind_eq_ok_iff.mp h
    obtain ⟨least, hleast, h⟩ := bind_eq_ok_iff.mp h
    obtain ⟨greatest, hgreatest, h⟩ := bind_eq_ok_iff.mp h
    obtain ⟨address, haddress, h⟩ := bind_eq_ok_iff.mp h
    rw [readWord_eq_ok_iff] at hresync hmaxAttempts hleast hgreatest
    rw [readBindAddress_eq_ok_iff] at haddress
    obtain ⟨hresync0, h⟩ := ite_error_eq_ok_iff.mp h
    obtain ⟨hmaxAttempts0, h⟩ := ite_error_eq_ok_iff.mp h
    obtain ⟨hbounds, h⟩ := ite_error_eq_ok_iff.mp h
    cases h
    have hresync' := toNat_ofNat64 (hresync.le (by decide))
    have hmaxAttempts' := toNat_ofNat32 (hmaxAttempts.le (by decide))
    have hleast' := toNat_ofNat64 (hleast.le (by decide))
    have hgreatest' := toNat_ofNat64 (hgreatest.le (by decide))
    refine ⟨⟨rfl, ?_, ?_, ?_, ?_, haddress⟩, ⟨?_, ?_, ?_, ?_⟩⟩
    all_goals dsimp only
    · rwa [hresync']
    · rwa [hmaxAttempts']
    · rwa [hleast']
    · rwa [hgreatest']
    all_goals omega
  · rintro ⟨⟨hns, hresync, hmaxAttempts, hleast, hgreatest, haddress⟩, hsound⟩
    refine bind_eq_ok_iff.mpr ⟨_, readWord_eq_ok_iff.mpr hresync, ?_⟩
    refine bind_eq_ok_iff.mpr ⟨_, readWord_eq_ok_iff.mpr hmaxAttempts, ?_⟩
    refine bind_eq_ok_iff.mpr ⟨_, readWord_eq_ok_iff.mpr hleast, ?_⟩
    refine bind_eq_ok_iff.mpr ⟨_, readWord_eq_ok_iff.mpr hgreatest, ?_⟩
    refine bind_eq_ok_iff.mpr ⟨_, readBindAddress_eq_ok_iff.mpr haddress, ?_⟩
    obtain ⟨hresync0, hmaxAttempts0, hleast0, hle⟩ := hsound
    refine ite_error_eq_ok_iff.mpr ⟨by omega, ?_⟩
    refine ite_error_eq_ok_iff.mpr ⟨by omega, ?_⟩
    refine ite_error_eq_ok_iff.mpr ⟨by omega, ?_⟩
    simp only [UInt64.ofNat_toNat, UInt32.ofNat_toNat, ← hns]

/-! ## The namespace -/

/-- Whether a text names a namespace, as one does that is not blank. -/
def isNamed (ns : String) : Bool := !Text.allBlank ns.toList

/-- The first namespace that is named, or the default. -/
def firstNamed (lookup : String → Option String) : String :=
  (((lookup "WATCH_NAMESPACE").filter isNamed).or
    ((lookup "OPERATOR_NAMESPACE").filter isNamed)).getD defaultNs

/-- The variables, as if those with a blank namespace were not set. -/
def withoutBlankNs (lookup : String → Option String) (key : String) : Option String :=
  if key = "WATCH_NAMESPACE" ∨ key = "OPERATOR_NAMESPACE" then (lookup key).filter isNamed
  else lookup key

/-- Whether a blank namespace stands before one that is named, other than the default. -/
def HidesNs (lookup : String → Option String) : Prop :=
  (∃ ns ∈ lookup "WATCH_NAMESPACE", isNamed ns = false) ∧
    ∃ ns ∈ lookup "OPERATOR_NAMESPACE", isNamed ns = true ∧ ns ≠ defaultNs

instance (lookup : String → Option String) : Decidable (HidesNs lookup) :=
  inferInstanceAs (Decidable (_ ∧ _))

/-- Which of the two is blank is asked behind the choice between them. -/
theorem readNs_eq : readNs lookup =
    (((lookup "WATCH_NAMESPACE").or (lookup "OPERATOR_NAMESPACE")).filter isNamed).getD
      defaultNs := rfl

theorem HidesNs.readNs_eq (h : HidesNs lookup) : readNs lookup = defaultNs := by
  obtain ⟨⟨blank, hset, hblank⟩, -⟩ := h
  rw [Settings.readNs_eq, Option.mem_def.mp hset, Option.some_or, Option.filter_some_neg hblank,
    Option.getD_none]

theorem HidesNs.firstNamed_ne (h : HidesNs lookup) : firstNamed lookup ≠ defaultNs := by
  obtain ⟨⟨blank, hset, hblank⟩, ns, hns, hnamed, hne⟩ := h
  rw [firstNamed, Option.mem_def.mp hset, Option.mem_def.mp hns, Option.filter_some_neg hblank,
    Option.filter_some_pos hnamed]
  exact hne

theorem readNs_of_not_hidesNs (h : ¬HidesNs lookup) : readNs lookup = firstNamed lookup := by
  rw [readNs_eq, firstNamed]
  cases hwatch : lookup "WATCH_NAMESPACE" with
  | none => rfl
  | some watched =>
    rw [Option.some_or]
    cases hwatched : isNamed watched with
    | true => rw [Option.filter_some_pos hwatched, Option.some_or]
    | false =>
      -- a namespace that is named behind the blank one has to be the default
      rw [Option.filter_some_neg hwatched, Option.none_or]
      cases hother : (lookup "OPERATOR_NAMESPACE").filter isNamed with
      | none => rfl
      | some ns =>
        obtain ⟨hns, hnamed⟩ := Option.filter_eq_some_iff.mp hother
        by_contra hne
        exact h ⟨⟨watched, hwatch, hwatched⟩, ns, hns, hnamed, fun heq => hne heq.symm⟩

/-- The first namespace that is named is the one that is read, unless a blank one hides it. -/
theorem readNs_eq_firstNamed_iff : readNs lookup = firstNamed lookup ↔ ¬HidesNs lookup := by
  refine ⟨?_, readNs_of_not_hidesNs⟩
  intro heq hhides
  exact hhides.firstNamed_ne (heq.symm.trans hhides.readNs_eq)

theorem not_hidesNs_withoutBlankNs : ¬HidesNs (withoutBlankNs lookup) := by
  rintro ⟨⟨ns, hns, hblank⟩, -⟩
  rw [Option.mem_def, withoutBlankNs, if_pos (.inl rfl), Option.filter_eq_some_iff, hblank] at hns
  exact Bool.false_ne_true hns.2

theorem firstNamed_withoutBlankNs : firstNamed (withoutBlankNs lookup) = firstNamed lookup := by
  rw [firstNamed, withoutBlankNs, withoutBlankNs, if_pos (.inl rfl), if_pos (.inr rfl)]
  simp only [Option.filter_filter, Bool.and_self, firstNamed]

/-- Variables that differ in the namespace only are read alike, but for the namespace. -/
theorem read_of_agree (h : ∀ key, key ≠ "WATCH_NAMESPACE" → key ≠ "OPERATOR_NAMESPACE" →
    lookup' key = lookup key) :
    read lookup' = (read lookup).map fun s => { s with ns := readNs lookup' } := by
  have hword (key : String) (greatest default : Nat) (hwatch : key ≠ "WATCH_NAMESPACE")
      (hother : key ≠ "OPERATOR_NAMESPACE") :
      readWord lookup' key greatest default = readWord lookup key greatest default := by
    rw [readWord, readWord, h key hwatch hother]
  have haddress : readBindAddress lookup' = readBindAddress lookup := by
    rw [readBindAddress, readBindAddress, h _ (by decide) (by decide)]
  unfold read
  rw [hword _ _ _ (by decide) (by decide), hword _ _ _ (by decide) (by decide),
    hword _ _ _ (by decide) (by decide), hword _ _ _ (by decide) (by decide), haddress]
  simp only [map_bind, apply_ite (Except.map _)]
  rfl

/-- The namespace of settings that are read is the one that is read by itself. -/
theorem map_readNs (lookup : String → Option String) :
    read lookup = (read lookup).map fun s => { s with ns := readNs lookup } :=
  read_of_agree fun _ _ _ => rfl

/-- **A blank namespace counts as one that is not set, except before another one.** Without the
blank ones the settings have the first namespace that is named, and differ in nothing else. With
them the namespace is this one too, unless a blank one stands before one that is named: then it is
the default. So settings that are accepted stay the same just if no blank namespace hides another
one. -/
theorem read_withoutBlankNs (lookup : String → Option String) :
    read (withoutBlankNs lookup) =
        (read lookup).map (fun s => { s with ns := firstNamed lookup }) ∧
      read lookup = (read lookup).map (fun s =>
        { s with ns := if HidesNs lookup then defaultNs else firstNamed lookup }) ∧
      (read lookup = read (withoutBlankNs lookup) ↔
        (∃ e, read lookup = .error e) ∨ ¬HidesNs lookup) := by
  have hwithout : read (withoutBlankNs lookup) =
      (read lookup).map fun s => { s with ns := firstNamed lookup } := by
    rw [← firstNamed_withoutBlankNs, ← readNs_of_not_hidesNs not_hidesNs_withoutBlankNs]
    refine read_of_agree fun key hwatch hother => ?_
    rw [withoutBlankNs, if_neg (not_or.mpr ⟨hwatch, hother⟩)]
  refine ⟨hwithout, ?_, ?_⟩
  · split
    · rename_i hhides
      rw [← hhides.readNs_eq]
      exact map_readNs lookup
    · rename_i hnot
      rw [← readNs_of_not_hidesNs hnot]
      exact map_readNs lookup
  · rw [hwithout, ← readNs_eq_firstNamed_iff]
    cases h : read lookup with
    | error e => exact iff_of_true rfl (.inl ⟨e, rfl⟩)
    | ok s =>
      have hns : s.ns = readNs lookup := (read_eq_ok_iff.mp h).1.ns
      rw [← hns]
      constructor
      · intro heq
        exact .inr (congrArg Settings.ns (Except.ok.inj heq))
      · rintro (⟨e, ⟨⟩⟩ | heq)
        rw [← heq]
        rfl

/-- A namespace behind an empty one. -/
def behindBlank : String → Option String
  | "WATCH_NAMESPACE" => some ""
  | "OPERATOR_NAMESPACE" => some "ops"
  | _ => none

/-- The empty namespace hides the one that is named, which is read if the empty one is not set. -/
theorem blank_ns_hides_named :
    read behindBlank ≠ read (withoutBlankNs behindBlank) ∧
      (read behindBlank).map (·.ns) = .ok defaultNs ∧
      (read (withoutBlankNs behindBlank)).map (·.ns) = .ok "ops" ∧
      firstNamed behindBlank = "ops" := by
  have hhidden : (read behindBlank).map (·.ns) = .ok defaultNs := by decide +kernel
  have hnamed : (read (withoutBlankNs behindBlank)).map (·.ns) = .ok "ops" := by decide +kernel
  refine ⟨?_, hhidden, hnamed, by decide⟩
  intro heq
  rw [heq, hnamed] at hhidden
  exact absurd (Except.ok.inj hhidden) (by decide)

end PoolOperator.Settings
