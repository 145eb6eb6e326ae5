import Mathlib.Data.List.TakeWhile
import AutoRuntime.NetworkOrder

/-! What `inet_pton` takes for an IPv4 address: four octets in decimal, with a dot between each two. -/
namespace AutoRuntime

def octetText (octet : UInt8) : Bytes := (Nat.toDigits 10 octet.toNat).map Char.toUInt8

/-- The text of some octets, as in `10.0.0.1`. -/
def dotted (octets : List UInt8) : Bytes := [46].intercalate (octets.map octetText)

def DottedQuad (address : Bytes) : Prop := ∃ octets, octets.length = 4 ∧ address = dotted octets

theorem dotted_cons (octet : UInt8) {octets : List UInt8} (more : octets ≠ []) :
    dotted (octet :: octets) = octetText octet ++ 46 :: dotted octets := by
  cases octets with
  | nil => contradiction
  | cons => simp [dotted]

theorem dotted_singleton (octet : UInt8) : dotted [octet] = octetText octet := by
  simp [dotted]

theorem isDigit_iff (character : UInt8) :
    isDigit character = true ↔ 48 ≤ character.toNat ∧ character.toNat ≤ 57 := by
  simp only [isDigit,Bool.and_eq_true,decide_eq_true_eq]
  rfl

theorem digitChar_toUInt8 : ∀ value < 10, (Nat.digitChar value).toUInt8 = UInt8.ofNat (48 + value) := by
  decide

theorem octetText_digit (digit : isDigit character = true) :
    octetText (UInt8.ofNat (character.toNat - 48)) = [character] := by
  rw [isDigit_iff] at digit
  have value : (UInt8.ofNat (character.toNat - 48)).toNat = character.toNat - 48 := by
    rw [UInt8.toNat_ofNat']
    omega
  rw [octetText,value,Nat.toDigits_of_lt_base (by omega),List.map_singleton,digitChar_toUInt8 _ (by omega)]
  rw [show 48 + (character.toNat - 48) = character.toNat by omega,UInt8.ofNat_toNat]

theorem octetText_grown {value : Nat} (digit : isDigit character = true) (positive : value ≠ 0)
    (small : value * 10 + (character.toNat - 48) ≤ 255) :
    octetText (UInt8.ofNat (value * 10 + (character.toNat - 48))) = octetText (UInt8.ofNat value) ++ [character] := by
  have last := octetText_digit digit
  rw [isDigit_iff] at digit
  have grown : (UInt8.ofNat (value * 10 + (character.toNat - 48))).toNat = 10 * value + (character.toNat - 48) := by
    rw [UInt8.toNat_ofNat']
    omega
  have before : (UInt8.ofNat value).toNat = value := by
    rw [UInt8.toNat_ofNat']
    omega
  have digits : (UInt8.ofNat (character.toNat - 48)).toNat = character.toNat - 48 := by
    rw [UInt8.toNat_ofNat']
    omega
  rw [← last,octetText,octetText,octetText,grown,before,digits,← List.map_append,
    Nat.toDigits_append_toDigits (by decide) (by omega) (by omega)]

/-- How the text goes on after an octet, when this many octets have begun. -/
def GoesOn (octets : Nat) (rest : Bytes) : Prop :=
  rest = [] ∧ octets = 4 ∨ ∃ more, rest = 46 :: more ∧ octets < 4 ∧ inetPton octets none more = true

theorem inetPton_some {value : Nat} (read : inetPton octets (some value) address = true) (small : value ≤ 255) :
    ∃ octet rest, octetText (UInt8.ofNat value) ++ address = octetText octet ++ rest ∧ GoesOn octets rest := by
  induction address generalizing value with
  | nil => exact ⟨UInt8.ofNat value,[],rfl,.inl ⟨rfl,by simpa [inetPton] using read⟩⟩
  | cons character rest ih =>
    simp only [inetPton] at read
    split at read
    next digit =>
      simp only [Bool.and_eq_true,decide_eq_true_eq] at read
      obtain ⟨⟨positive,bound⟩,later⟩ := read
      obtain ⟨octet,left,text,goesOn⟩ := ih later bound
      refine ⟨octet,left,?_,goesOn⟩
      rw [← text,octetText_grown digit positive bound]
      simp
    next other =>
      simp only [Bool.and_eq_true,decide_eq_true_eq] at read
      obtain ⟨⟨rfl,room⟩,later⟩ := read
      exact ⟨UInt8.ofNat value,46 :: rest,rfl,.inr ⟨rest,rfl,room,later⟩⟩

theorem inetPton_none (read : inetPton octets none address = true) (room : octets < 4) :
    ∃ octet rest, address = octetText octet ++ rest ∧ GoesOn (octets + 1) rest := by
  cases address with
  | nil =>
    simp only [inetPton,decide_eq_true_eq] at read
    omega
  | cons character =>
    simp only [inetPton,Bool.and_eq_true] at read
    obtain ⟨⟨digit,-⟩,later⟩ := read
    have small : character.toNat - 48 ≤ 255 := by
      have bound := character.toNat_lt
      omega
    obtain ⟨octet,left,text,goesOn⟩ := inetPton_some later small
    rw [octetText_digit digit] at text
    exact ⟨octet,left,text,goesOn⟩

theorem inetPton_dotted (read : inetPton octets none address = true) (missing : octets + count = 3) :
    ∃ listed : List UInt8, listed.length = count + 1 ∧ address = dotted listed := by
  induction count generalizing octets address with
  | zero =>
    obtain ⟨octet,rest,rfl,⟨rfl,-⟩ | ⟨more,-,room,-⟩⟩ := inetPton_none read (by omega)
    · exact ⟨[octet],rfl,by rw [dotted_singleton,List.append_nil]⟩
    · omega
  | succ count ih =>
    obtain ⟨octet,rest,rfl,⟨-,full⟩ | ⟨more,rfl,room,later⟩⟩ := inetPton_none read (by omega)
    · omega
    · obtain ⟨listed,length,rfl⟩ := ih later (by omega)
      exact ⟨octet :: listed,by rw [List.length_cons,length],(dotted_cons octet (by rintro rfl; contradiction)).symm⟩

theorem digit_exists (value : Nat) (small : value < 10) :
    ∃ character, isDigit character = true ∧ character.toNat - 48 = value := by
  have text : (UInt8.ofNat (48 + value)).toNat = 48 + value := by
    rw [UInt8.toNat_ofNat']
    omega
  refine ⟨UInt8.ofNat (48 + value),?_⟩
  rw [isDigit_iff]
  omega

theorem inetPton_octetText (value : Nat) (small : value ≤ 255) (room : octets < 4) (rest : Bytes) :
    inetPton octets none (octetText (UInt8.ofNat value) ++ rest) = inetPton (octets + 1) (some value) rest := by
  induction value using Nat.strong_induction_on generalizing rest with
  | _ value ih =>
    by_cases single : value < 10
    · obtain ⟨character,digit,rfl⟩ := digit_exists value single
      rw [octetText_digit digit]
      simp [inetPton,digit,room]
    · obtain ⟨character,digit,units⟩ := digit_exists (value % 10) (by omega)
      have whole : value / 10 * 10 + (character.toNat - 48) = value := by omega
      have text : octetText (UInt8.ofNat value) = octetText (UInt8.ofNat (value / 10)) ++ [character] := by
        have grown := octetText_grown digit (show value / 10 ≠ 0 by omega) (by omega)
        rwa [whole] at grown
      rw [text,List.append_assoc,ih (value / 10) (by omega) (by omega)]
      have positive : value / 10 ≠ 0 := by omega
      simp only [List.singleton_append,inetPton,digit,whole]
      simp [positive,small]

theorem inetPton_of_dotted {listed : List UInt8} (more : listed ≠ []) (missing : octets + listed.length = 4) :
    inetPton octets none (dotted listed) = true := by
  induction listed generalizing octets with
  | nil => contradiction
  | cons octet rest ih =>
    have bound : octet.toNat ≤ 255 := Nat.le_of_lt_succ octet.toNat_lt
    have room : octets < 4 := by
      rw [List.length_cons] at missing
      omega
    have read (left : Bytes) : inetPton octets none (octetText octet ++ left) =
        inetPton (octets + 1) (some octet.toNat) left := by
      rw [← inetPton_octetText octet.toNat bound room,UInt8.ofNat_toNat]
    cases rest with
    | nil =>
      rw [dotted_singleton,← List.append_nil (octetText octet),read]
      simpa [inetPton] using missing
    | cons next rest =>
      simp only [List.length_cons] at missing
      have later : inetPton (octets + 1) none (dotted (next :: rest)) = true :=
        ih (by simp) (by rw [List.length_cons]; omega)
      have dot : isDigit 46 = false := rfl
      rw [dotted_cons octet (by simp),read]
      simp only [inetPton,dot,later]
      simp
      omega

theorem inetPton_iff (address : Bytes) : inetPton 0 none address = true ↔ DottedQuad address := by
  constructor
  · intro read
    exact inetPton_dotted read rfl
  · rintro ⟨listed,length,rfl⟩
    exact inetPton_of_dotted (by rintro rfl; contradiction) (by omega)

theorem inetPton_nonzero (read : inetPton octets state address = true) : 0 ∉ address := by
  have digit : isDigit 0 = false := rfl
  induction address generalizing octets state with
  | nil => exact List.not_mem_nil
  | cons character rest ih =>
    have apart : character ≠ 0 := by
      rintro rfl
      cases state <;> simp [inetPton,digit] at read
    suffices 0 ∉ rest by simp [apart.symm,this]
    cases state with
    | none =>
      simp only [inetPton,Bool.and_eq_true] at read
      exact ih read.2
    | some =>
      simp only [inetPton] at read
      split at read
      all_goals
        simp only [Bool.and_eq_true] at read
        exact ih read.2

/-- A text that passes is a dotted quad up to its first zero byte. It is one as a whole exactly
when it has no zero byte. -/
theorem dottedQuad_iff (address : Bytes) : DottedQuad address ↔ parseIpv4 address = true ∧ 0 ∉ address := by
  rw [← inetPton_iff,parseIpv4]
  have whole (clean : 0 ∉ address) : address.takeWhile (· ≠ 0) = address := by
    rw [List.takeWhile_eq_self_iff]
    intro character listed
    simpa using fun zero : character = 0 => clean (zero ▸ listed)
  constructor
  · intro read
    have clean := inetPton_nonzero read
    exact ⟨by rwa [whole clean],clean⟩
  · rintro ⟨read,clean⟩
    rwa [whole clean] at read

end AutoRuntime
