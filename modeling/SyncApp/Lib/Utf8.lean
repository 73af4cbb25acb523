import Mathlib.Data.List.Lex

/-!
# UTF-8

A text is a list of code points. `encode` writes the shortest form of each, and `decode` reads
nothing else: a text that is read is one of scalar values whose encoding is what was read
(`decode_eq_some`). The bytes of texts are ordered as the texts are (`encode_lt_iff`).
-/

set_option autoImplicit false

namespace Lib.Utf8

/-- A code point that has an encoding: no surrogate. -/
def Scalar (c : Nat) : Prop := c < 0x110000 ∧ ¬(0xD800 ≤ c ∧ c ≤ 0xDFFF)

instance (c : Nat) : Decidable (Scalar c) := inferInstanceAs (Decidable (_ ∧ _))

theorem scalar_of_ascii {c : Nat} (small : c < 128) : Scalar c := ⟨by omega, by omega⟩

def encodeChar (c : Nat) : List UInt8 :=
  if c < 0x80 then [.ofNat c]
  else if c < 0x800 then [.ofNat (0xC0 + c / 64), .ofNat (0x80 + c % 64)]
  else if c < 0x10000 then
    [.ofNat (0xE0 + c / 4096), .ofNat (0x80 + c / 64 % 64), .ofNat (0x80 + c % 64)]
  else
    [.ofNat (0xF0 + c / 262144), .ofNat (0x80 + c / 4096 % 64), .ofNat (0x80 + c / 64 % 64),
      .ofNat (0x80 + c % 64)]

def encode (text : List Nat) : List UInt8 := text.flatMap encodeChar

/-- A code point in front of a text, where these bytes are its encoding. -/
def accept (c : Nat) (bytes : List UInt8) (rest : Option (List Nat)) : Option (List Nat) :=
  if Scalar c ∧ encodeChar c = bytes then rest.map (c :: ·) else none

def decode : List UInt8 → Option (List Nat)
  | [] => some []
  | a :: rest =>
    if a < 0x80 then accept a.toNat [a] (decode rest)
    else match rest with
      | [] => none
      | b :: rest =>
        if a < 0xE0 then accept (a.toNat % 32 * 64 + b.toNat % 64) [a, b] (decode rest)
        else match rest with
          | [] => none
          | c :: rest =>
            if a < 0xF0 then
              accept (a.toNat % 16 * 4096 + b.toNat % 64 * 64 + c.toNat % 64) [a, b, c]
                (decode rest)
            else match rest with
              | [] => none
              | d :: rest =>
                accept (a.toNat % 8 * 262144 + b.toNat % 64 * 4096 + c.toNat % 64 * 64 +
                  d.toNat % 64) [a, b, c, d] (decode rest)

theorem accept_eq_some {c : Nat} {bytes : List UInt8} {rest : Option (List Nat)}
    {text : List Nat} (accepted : accept c bytes rest = some text) :
    ∃ more, rest = some more ∧ text = c :: more ∧ Scalar c ∧ encodeChar c = bytes := by
  unfold accept at accepted
  split at accepted
  next here =>
    obtain ⟨more, read, rfl⟩ := Option.map_eq_some_iff.mp accepted
    exact ⟨more, read, rfl, here⟩
  next => cases accepted

/-- **What is read is what was written.** -/
theorem decode_eq_some {bytes : List UInt8} {text : List Nat} (read : decode bytes = some text) :
    (∀ c ∈ text, Scalar c) ∧ encode text = bytes := by
  have step {c : Nat} {front rest : List UInt8} {text : List Nat}
      (ih : ∀ {more}, decode rest = some more → (∀ c ∈ more, Scalar c) ∧ encode more = rest)
      (read : accept c front (decode rest) = some text) :
      (∀ c ∈ text, Scalar c) ∧ encode text = front ++ rest := by
    obtain ⟨more, later, rfl, scalar, rfl⟩ := accept_eq_some read
    obtain ⟨scalars, rfl⟩ := ih later
    exact ⟨List.forall_mem_cons.mpr ⟨scalar, scalars⟩, List.flatMap_cons⟩
  fun_induction decode bytes generalizing text with
  | case1 =>
    cases read
    exact ⟨fun _ mem => (nomatch mem), rfl⟩
  | case2 a rest _ ih => exact step ih read
  | case3 => cases read
  | case4 a _ b rest _ ih => exact step ih read
  | case5 => cases read
  | case6 a _ b _ c rest _ ih => exact step ih read
  | case7 => cases read
  | case8 a _ b _ c _ d rest ih => exact step ih read

theorem accept_encodeChar {c : Nat} (scalar : Scalar c) (rest : Option (List Nat)) :
    accept c (encodeChar c) rest = rest.map (c :: ·) := if_pos ⟨scalar, rfl⟩

/-- The first code point is read from its own bytes, whatever follows. -/
theorem decode_encodeChar {c : Nat} (scalar : Scalar c) (rest : List UInt8) :
    decode (encodeChar c ++ rest) = (decode rest).map (c :: ·) := by
  have bound : c < 0x110000 := scalar.1
  have byte {n : Nat} (small : n < 256) : (UInt8.ofNat n).toNat = n := by
    rw [UInt8.toNat_ofNat', Nat.mod_eq_of_lt small]
  have below {n : Nat} {limit : UInt8} (small : n < 256) (less : n < limit.toNat) :
      UInt8.ofNat n < limit := by
    rwa [UInt8.lt_iff_toNat_lt, byte small]
  have above {n : Nat} {limit : UInt8} (small : n < 256) (more : limit.toNat ≤ n) :
      ¬UInt8.ofNat n < limit := by
    rw [UInt8.lt_iff_toNat_lt, byte small]
    omega
  have two : UInt8.toNat 0x80 = 0x80 := rfl
  have three : UInt8.toNat 0xE0 = 0xE0 := rfl
  have four : UInt8.toNat 0xF0 = 0xF0 := rfl
  have read := accept_encodeChar scalar (decode rest)
  unfold encodeChar at read ⊢
  by_cases ascii : c < 0x80
  · rw [if_pos ascii] at read ⊢
    simp only [List.cons_append, List.nil_append]
    conv_lhs => unfold decode
    rw [if_pos (below (by omega) (by omega)), byte (by omega)]
    exact read
  rw [if_neg ascii] at read ⊢
  by_cases short : c < 0x800
  · rw [if_pos short] at read ⊢
    simp only [List.cons_append, List.nil_append]
    conv_lhs => unfold decode
    have lead : (0xC0 + c / 64) % 32 * 64 + (0x80 + c % 64) % 64 = c := by omega
    rw [if_neg (above (by omega) (by omega))]
    dsimp only
    rw [if_pos (below (by omega) (by omega)), byte (by omega), byte (by omega), lead]
    exact read
  rw [if_neg short] at read ⊢
  by_cases basic : c < 0x10000
  · rw [if_pos basic] at read ⊢
    simp only [List.cons_append, List.nil_append]
    conv_lhs => unfold decode
    have lead : (0xE0 + c / 4096) % 16 * 4096 + (0x80 + c / 64 % 64) % 64 * 64 +
        (0x80 + c % 64) % 64 = c := by omega
    rw [if_neg (above (by omega) (by omega))]
    dsimp only
    rw [if_neg (above (by omega) (by omega)), if_pos (below (by omega) (by omega)),
      byte (by omega), byte (by omega), byte (by omega), lead]
    exact read
  rw [if_neg basic] at read ⊢
  simp only [List.cons_append, List.nil_append]
  conv_lhs => unfold decode
  have lead : (0xF0 + c / 262144) % 8 * 262144 + (0x80 + c / 4096 % 64) % 64 * 4096 +
      (0x80 + c / 64 % 64) % 64 * 64 + (0x80 + c % 64) % 64 = c := by omega
  rw [if_neg (above (by omega) (by omega))]
  dsimp only
  rw [if_neg (above (by omega) (by omega)), if_neg (above (by omega) (by omega)), byte (by omega),
    byte (by omega), byte (by omega), byte (by omega), lead]
  exact read

/-- **What was written is read.** -/
theorem decode_encode {text : List Nat} (scalars : ∀ c ∈ text, Scalar c) :
    decode (encode text) = some text := by
  induction text with
  | nil => rfl
  | cons c text ih =>
    obtain ⟨scalar, later⟩ := List.forall_mem_cons.mp scalars
    show decode (encodeChar c ++ encode text) = _
    rw [decode_encodeChar scalar, ih later, Option.map_some]

/-- A text without control characters is spelled without control bytes. -/
theorem encode_visible {text : List Nat} (scalars : ∀ c ∈ text, Scalar c)
    (visible : ∀ c ∈ text, 32 ≤ c) : ∀ byte ∈ encode text, 32 ≤ byte.toNat := by
  have large {n : Nat} (low : 32 ≤ n) (small : n < 256) : 32 ≤ (UInt8.ofNat n).toNat := by
    rwa [UInt8.toNat_ofNat', Nat.mod_eq_of_lt small]
  intro byte mem
  obtain ⟨c, held, mem⟩ := List.mem_flatMap.mp mem
  have low := visible c held
  have bound : c < 0x110000 := (scalars c held).1
  unfold encodeChar at mem
  split at mem
  · rw [List.mem_singleton.mp mem]
    exact large low (by omega)
  split at mem
  · rcases List.mem_pair.mp mem with rfl | rfl
    · exact large (by omega) (by omega)
    · exact large (by omega) (by omega)
  split at mem
  · simp only [List.mem_cons, List.not_mem_nil, or_false] at mem
    rcases mem with rfl | rfl | rfl
    all_goals exact large (by omega) (by omega)
  · simp only [List.mem_cons, List.not_mem_nil, or_false] at mem
    rcases mem with rfl | rfl | rfl | rfl
    all_goals exact large (by omega) (by omega)

theorem encode_append (first second : List Nat) :
    encode (first ++ second) = encode first ++ encode second := List.flatMap_append

/-! ## Octets -/

/-- The bytes of a text as numbers; those of ASCII are its code points. -/
def octets (text : List Nat) : List Nat := (encode text).map UInt8.toNat

theorem octets_nil : octets [] = [] := rfl

theorem octets_append (first second : List Nat) :
    octets (first ++ second) = octets first ++ octets second := by
  unfold octets
  rw [encode_append, List.map_append]

theorem octets_cons (c : Nat) (text : List Nat) : octets (c :: text) = octets [c] ++ octets text :=
  octets_append [c] text

theorem octets_char_ascii {c : Nat} (small : c < 128) : octets [c] = [c] := by
  unfold octets encode encodeChar
  rw [List.flatMap_singleton, if_pos small, List.map_singleton, UInt8.toNat_ofNat',
    Nat.mod_eq_of_lt (by omega)]

theorem octets_ascii {text : List Nat} (small : ∀ c ∈ text, c < 128) : octets text = text := by
  induction text with
  | nil => rfl
  | cons c text ih =>
    obtain ⟨here, later⟩ := List.forall_mem_cons.mp small
    rw [octets_cons, octets_char_ascii here, ih later]
    rfl

/-- What is no ASCII has no octet of ASCII. -/
theorem octets_char_high {c : Nat} (scalar : Scalar c) (large : 128 ≤ c) :
    octets [c] ≠ [] ∧ ∀ octet ∈ octets [c], 128 ≤ octet := by
  have high {n : Nat} (low : 128 ≤ n) (small : n < 256) : 128 ≤ (UInt8.ofNat n).toNat := by
    rwa [UInt8.toNat_ofNat', Nat.mod_eq_of_lt small]
  have bound : c < 0x110000 := scalar.1
  unfold octets encode encodeChar
  rw [List.flatMap_singleton, if_neg (by omega)]
  split
  · refine ⟨List.cons_ne_nil _ _, fun octet mem => ?_⟩
    simp only [List.map_cons, List.map_nil, List.mem_cons, List.not_mem_nil, or_false] at mem
    rcases mem with rfl | rfl
    all_goals exact high (by omega) (by omega)
  split
  · refine ⟨List.cons_ne_nil _ _, fun octet mem => ?_⟩
    simp only [List.map_cons, List.map_nil, List.mem_cons, List.not_mem_nil, or_false] at mem
    rcases mem with rfl | rfl | rfl
    all_goals exact high (by omega) (by omega)
  · refine ⟨List.cons_ne_nil _ _, fun octet mem => ?_⟩
    simp only [List.map_cons, List.map_nil, List.mem_cons, List.not_mem_nil, or_false] at mem
    rcases mem with rfl | rfl | rfl | rfl
    all_goals exact high (by omega) (by omega)

theorem mem_of_mem_octets {text : List Nat} {c : Nat} (scalars : ∀ c ∈ text, Scalar c)
    (small : c < 128) (mem : c ∈ octets text) : c ∈ text := by
  induction text with
  | nil => cases mem
  | cons d text ih =>
    obtain ⟨here, later⟩ := List.forall_mem_cons.mp scalars
    rw [octets_cons] at mem
    rcases List.mem_append.mp mem with first | rest
    · by_cases ascii : d < 128
      · rw [octets_char_ascii ascii, List.mem_singleton] at first
        exact first ▸ List.mem_cons_self
      · have := (octets_char_high here (by omega)).2 c first
        omega
    · exact List.mem_cons_of_mem _ (ih later rest)

/-- A text begins with what its octets begin with, where this is ASCII. -/
theorem isPrefix_of_octets {front text : List Nat} (scalars : ∀ c ∈ text, Scalar c)
    (small : ∀ c ∈ front, c < 128) (begins : front <+: octets text) : front <+: text := by
  induction front generalizing text with
  | nil => exact List.nil_prefix
  | cons c front ih =>
    obtain ⟨here, later⟩ := List.forall_mem_cons.mp small
    cases text with
    | nil => exact absurd (List.prefix_nil.mp begins) (List.cons_ne_nil _ _)
    | cons d text =>
      obtain ⟨scalar, rest⟩ := List.forall_mem_cons.mp scalars
      rw [octets_cons] at begins
      by_cases ascii : d < 128
      · rw [octets_char_ascii ascii, List.singleton_append] at begins
        obtain ⟨rfl, more⟩ := List.cons_prefix_cons.mp begins
        exact List.cons_prefix_cons.mpr ⟨rfl, ih rest later more⟩
      · obtain ⟨some, high⟩ := octets_char_high scalar (by omega)
        cases first : octets [d] with
        | nil => exact absurd first some
        | cons octet others =>
          rw [first, List.cons_append] at begins
          have := high octet (first ▸ List.mem_cons_self)
          have := (List.cons_prefix_cons.mp begins).1
          omega

/-! ## The order -/

theorem byte_lt {m n : Nat} (below : m < n) (byte : n < 256) : UInt8.ofNat m < UInt8.ofNat n := by
  rw [UInt8.lt_iff_toNat_lt, UInt8.toNat_ofNat', UInt8.toNat_ofNat',
    Nat.mod_eq_of_lt byte, Nat.mod_eq_of_lt (Nat.lt_trans below byte)]
  exact below

theorem cons_byte_lt {m n : Nat} {s t : List UInt8} (byte : n < 256)
    (below : m < n ∨ m = n ∧ s < t) : UInt8.ofNat m :: s < UInt8.ofNat n :: t := by
  rw [List.cons_lt_cons_iff]
  rcases below with less | ⟨same, less⟩
  · exact .inl (byte_lt less byte)
  · exact .inr ⟨by rw [same], less⟩

/-- The encoding of a code point comes before that of a larger one, whatever follows. -/
theorem encodeChar_lt {c d : Nat} {s t : List UInt8} (below : c < d) (scalar : Scalar d) :
    encodeChar c ++ s < encodeChar d ++ t := by
  have bound : d < 0x110000 := scalar.1
  unfold encodeChar
  by_cases one : d < 0x80
  · rw [if_pos one, if_pos (by omega)]
    exact cons_byte_lt (by omega) (.inl below)
  rw [if_neg one]
  by_cases two : d < 0x800
  · rw [if_pos two]
    by_cases ascii : c < 0x80
    · rw [if_pos ascii]
      exact cons_byte_lt (by omega) (.inl (by omega))
    rw [if_neg ascii, if_pos (by omega)]
    refine cons_byte_lt (by omega) ?_
    by_cases lead : c / 64 < d / 64
    · exact .inl (by omega)
    · exact .inr ⟨by omega, cons_byte_lt (by omega) (.inl (by omega))⟩
  rw [if_neg two]
  by_cases three : d < 0x10000
  · rw [if_pos three]
    by_cases ascii : c < 0x80
    · rw [if_pos ascii]
      exact cons_byte_lt (by omega) (.inl (by omega))
    rw [if_neg ascii]
    by_cases short : c < 0x800
    · rw [if_pos short]
      exact cons_byte_lt (by omega) (.inl (by omega))
    rw [if_neg short, if_pos (by omega)]
    refine cons_byte_lt (by omega) ?_
    by_cases lead : c / 4096 < d / 4096
    · exact .inl (by omega)
    refine .inr ⟨by omega, cons_byte_lt (by omega) ?_⟩
    by_cases middle : c / 64 < d / 64
    · exact .inl (by omega)
    · exact .inr ⟨by omega, cons_byte_lt (by omega) (.inl (by omega))⟩
  rw [if_neg three]
  by_cases ascii : c < 0x80
  · rw [if_pos ascii]
    exact cons_byte_lt (by omega) (.inl (by omega))
  rw [if_neg ascii]
  by_cases short : c < 0x800
  · rw [if_pos short]
    exact cons_byte_lt (by omega) (.inl (by omega))
  rw [if_neg short]
  by_cases basic : c < 0x10000
  · rw [if_pos basic]
    exact cons_byte_lt (by omega) (.inl (by omega))
  rw [if_neg basic]
  refine cons_byte_lt (by omega) ?_
  by_cases lead : c / 262144 < d / 262144
  · exact .inl (by omega)
  refine .inr ⟨by omega, cons_byte_lt (by omega) ?_⟩
  by_cases second : c / 4096 < d / 4096
  · exact .inl (by omega)
  refine .inr ⟨by omega, cons_byte_lt (by omega) ?_⟩
  by_cases third : c / 64 < d / 64
  · exact .inl (by omega)
  · exact .inr ⟨by omega, cons_byte_lt (by omega) (.inl (by omega))⟩

theorem append_lt_append {front s t : List UInt8} (below : s < t) : front ++ s < front ++ t := by
  induction front with
  | nil => exact below
  | cons byte front ih => exact List.cons_lt_cons_iff.mpr (.inr ⟨rfl, ih⟩)

theorem encodeChar_ne_nil (c : Nat) : encodeChar c ≠ [] := by
  unfold encodeChar
  split
  · nofun
  · split
    · nofun
    · split <;> nofun

theorem encode_lt {s t : List Nat} (scalars : ∀ c ∈ t, Scalar c) (below : s < t) :
    encode s < encode t := by
  induction t generalizing s with
  | nil => exact (List.not_lt_nil s below).elim
  | cons d t ih =>
    obtain ⟨scalar, later⟩ := List.forall_mem_cons.mp scalars
    cases s with
    | nil =>
      show [] < encodeChar d ++ encode t
      obtain ⟨byte, rest, first⟩ := List.exists_cons_of_ne_nil (encodeChar_ne_nil d)
      rw [first]
      exact List.nil_lt_cons _ _
    | cons c s =>
      show encodeChar c ++ encode s < encodeChar d ++ encode t
      rcases List.cons_lt_cons_iff.mp below with less | ⟨rfl, less⟩
      · exact encodeChar_lt less scalar
      · exact append_lt_append (ih later less)

/-- **Texts are ordered as their bytes are.** -/
theorem encode_lt_iff {s t : List Nat} (first : ∀ c ∈ s, Scalar c) (second : ∀ c ∈ t, Scalar c) :
    encode s < encode t ↔ s < t := by
  refine ⟨fun bytes => ?_, encode_lt second⟩
  rcases lt_trichotomy s t with less | rfl | more
  · exact less
  · exact (List.lt_irrefl _ bytes).elim
  · exact (List.lt_asymm bytes (encode_lt first more)).elim

end Lib.Utf8
