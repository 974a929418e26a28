import Mathlib
import SoundCard.Device.Open
/-! Device names read back: every name the library writes parses to the numbers it was written
from. -/
namespace SoundCard.Device

open SoundCard.Pcm SoundCard.Text

/-! ## Decimals -/

/-- `s` is the text of the unsigned 32-bit number `n`: an optional `+`, then one or more
ASCII digits whose value is `n`, with `n` below 2^32. -/
def DecimalText (s : String) (n : Nat) : Prop :=
  ∃ ds : List Char, (s.toList = ds ∨ s.toList = '+' :: ds) ∧ ds ≠ [] ∧
    (∀ c ∈ ds, c.isDigit) ∧ Nat.ofDigitChars 10 ds 0 = n ∧ n < 2 ^ 32

/-- The value of a run of digits below 2^32, as the reading of a decimal computes it. -/
def digitsValue? (ds : List Char) : Option Nat :=
  if ds.isEmpty || !ds.all Char.isDigit then none
  else
    let n := ds.foldl (fun acc c => acc * 10 + (c.toNat - '0'.toNat)) 0
    if n < 4294967296 then some n else none

theorem parseU32?_eq (s : String) :
    parseU32? s = digitsValue? (match s.toList with
      | '+' :: rest => rest
      | cs => cs) := rfl

theorem digitsValue?_eq_some_iff {ds : List Char} {n : Nat} :
    digitsValue? ds = some n ↔
      ds ≠ [] ∧ (∀ c ∈ ds, c.isDigit) ∧ Nat.ofDigitChars 10 ds 0 = n ∧ n < 2 ^ 32 := by
  have hfold : ds.foldl (fun acc c => acc * 10 + (c.toNat - '0'.toNat)) 0 =
      Nat.ofDigitChars 10 ds 0 := by
    simp only [Nat.ofDigitChars_eq_foldl, Nat.mul_comm]
  unfold digitsValue?
  simp only [hfold]
  by_cases hd : ds.isEmpty || !ds.all Char.isDigit
  · rw [if_pos hd]
    simp only [Bool.or_eq_true, List.isEmpty_iff, Bool.not_eq_true', List.all_eq_false] at hd
    simp only [reduceCtorEq, false_iff]
    rintro ⟨hne, hdig, -⟩
    rcases hd with hd | ⟨c, hc, hc'⟩
    · exact hne hd
    · exact absurd (hdig c hc) (by simp [hc'])
  · rw [if_neg hd]
    simp only [Bool.or_eq_true, List.isEmpty_iff, Bool.not_eq_true', List.all_eq_false,
      not_or, not_exists, not_and, not_not] at hd
    split_ifs with hlt
    · simp only [Option.some.injEq]
      exact ⟨fun h => ⟨hd.1, hd.2, h, h ▸ hlt⟩, fun h => h.2.2.1⟩
    · simp only [false_iff]
      rintro ⟨-, -, rfl, hn⟩
      exact hlt hn

/-- A decimal is read exactly when it is the text of its value. -/
theorem parseU32?_eq_some_iff {s : String} {n : Nat} : parseU32? s = some n ↔ DecimalText s n := by
  rw [parseU32?_eq, DecimalText]
  have hplus : ¬('+' : Char).isDigit := by decide
  rcases h : s.toList with _ | ⟨c, rest⟩
  · simp [digitsValue?]
  · by_cases hc : c = '+'
    · subst hc
      simp only [digitsValue?_eq_some_iff, List.cons.injEq, true_and]
      constructor
      · exact fun h' => ⟨rest, .inr rfl, h'⟩
      · rintro ⟨ds, rfl | rfl, hne, hdig, hval⟩
        · exact absurd (hdig '+' List.mem_cons_self) hplus
        · exact ⟨hne, hdig, hval⟩
    · have hm : (match c :: rest with
          | '+' :: rest => rest
          | cs => cs) = c :: rest := by
        split
        · rename_i h'
          exact absurd (List.cons.inj h').1 hc
        · rfl
      rw [hm, digitsValue?_eq_some_iff]
      constructor
      · exact fun h' => ⟨c :: rest, .inl rfl, h'⟩
      · rintro ⟨ds, rfl | h', hval⟩
        · exact hval
        · exact absurd (List.cons.inj h').1 hc

theorem decimalText_toString {n : Nat} (hn : n < 2 ^ 32) : DecimalText (toString n) n := by
  refine ⟨Nat.toDigits 10 n, .inl ?_, Nat.toDigits_ne_nil, fun c hc =>
    Nat.isDigit_of_mem_toDigits (by decide) (by decide) hc, Nat.ofDigitChars_ten_toDigits, hn⟩
  rw [Nat.toString_eq_repr, Nat.toList_repr]

theorem not_mem_of_decimalText {s : String} {n : Nat} {c : Char} (h : DecimalText s n)
    (hc : ¬c.isDigit) (hplus : c ≠ '+') : c ∉ s.toList := by
  obtain ⟨ds, hs | hs, -, hdig, -⟩ := h
  · rw [hs]
    exact fun hm => hc (hdig c hm)
  · rw [hs, List.mem_cons, not_or]
    exact ⟨hplus, fun hm => hc (hdig c hm)⟩

/-! ## Cutting texts -/

/-- Dropping a prefix answers the rest of the text exactly when the text starts with it. -/
theorem dropPrefix?_toString_eq_some_iff {s p r : String} :
    (s.dropPrefix? p).map (·.toString) = some r ↔ s = p ++ r := by
  constructor
  · intro h
    obtain ⟨res, hres, rfl⟩ := Option.map_eq_some_iff.1 h
    exact String.eq_append_of_dropPrefix?_string_eq_some hres
  · intro hs
    have hstart : s.toSlice.startsWith p = true := by
      rw [String.startsWith_toSlice, String.startsWith_string_iff, hs, String.toList_append]
      exact List.prefix_append _ _
    obtain ⟨res, hres⟩ := Option.ne_none_iff_exists'.1 (fun hnone : s.dropPrefix? p = none => by
      rw [String.dropPrefix?_eq_dropPrefix?_toSlice, String.Slice.dropPrefix?_eq_none_iff] at hnone
      rw [hnone] at hstart
      cases hstart)
    have happ := String.eq_append_of_dropPrefix?_string_eq_some hres
    rw [hres, Option.map_some, Option.some.injEq]
    rw [hs] at happ
    exact (String.append_right_inj p).1 happ.symm

theorem splitOnce_eq_some_iff {s a b : String} {c : Char} :
    splitOnce s c = some (a, b) ↔ s.toList = a.toList ++ c :: b.toList ∧ c ∉ a.toList := by
  unfold splitOnce
  dsimp only
  split
  · rename_i i h
    obtain ⟨hi, hget, hfirst⟩ := List.idxOf?_eq_some_iff.1 h
    simp only [Option.some.injEq, Prod.mk.injEq]
    constructor
    · rintro ⟨rfl, rfl⟩
      refine ⟨?_, ?_⟩
      · simp only [String.toList_ofList]
        rw [← hget, List.getElem_cons_drop, List.take_append_drop]
      · simp only [String.toList_ofList]
        intro hmem
        obtain ⟨j, hj, hjc⟩ := List.getElem_of_mem hmem
        rw [List.length_take] at hj
        exact hfirst j (by omega) (by rw [← hjc, List.getElem_take])
    · rintro ⟨hs, hc⟩
      have hia : i = a.toList.length := by
        by_contra hne
        rcases Nat.lt_or_gt_of_ne hne with hlt | hgt
        · apply hc
          have : s.toList[i] = a.toList[i] := by
            simp only [hs, List.getElem_append_left hlt]
          rw [← hget, this]
          exact List.getElem_mem _
        · apply hfirst a.toList.length hgt
          simp [hs]
      subst hia
      rw [← String.toList_inj, ← String.toList_inj, String.toList_ofList, String.toList_ofList, hs]
      simp
  · rename_i h
    simp only [reduceCtorEq, false_iff, not_and]
    intro hs hc
    rw [List.idxOf?_eq_none_iff, hs] at h
    exact h (List.mem_append_right _ List.mem_cons_self)

/-! ## Stream node names -/

/-- The direction a node name's last letter gives. -/
def directionOf? : Option Char → Option Direction
  | some 'p' => some .playback
  | some 'c' => some .capture
  | _ => none

theorem directionOf?_eq_some_iff {o : Option Char} {d : Direction} :
    directionOf? o = some d ↔ o = some d.suffix := by
  unfold directionOf?
  split <;> cases d <;> simp_all [Direction.suffix]

/-- Reading a node name: the prefix, the first `D`, the last letter, then the two
decimals. -/
theorem parseNodeName?_eq (name : String) :
    parseNodeName? name =
      ((name.dropPrefix? "pcmC").map (·.toString)).bind fun rest =>
        (splitOnce rest 'D').bind fun parts =>
          (directionOf? parts.2.toList.getLast?).bind fun d =>
            (parseU32? parts.1).bind fun c =>
              (parseU32? (String.ofList parts.2.toList.dropLast)).bind fun v => some (c, v, d) := by
  unfold parseNodeName?
  congr 1
  funext rest
  congr 1
  funext parts
  obtain ⟨card, tail⟩ := parts
  dsimp only
  generalize tail.toList.getLast? = o
  rcases o with _ | ch
  · rfl
  · by_cases hp : ch = 'p'
    · subst hp
      rfl
    · by_cases hc : ch = 'c'
      · subst hc
        rfl
      · simp [directionOf?, hp, hc]

/-- A node name is read exactly when it is `pcmC`, a decimal, `D`, a decimal and the letter of
its direction. -/
theorem parseNodeName?_eq_some_iff {name : String} {c d : Nat} {dir : Direction} :
    parseNodeName? name = some (c, d, dir) ↔
      ∃ x y, name = "pcmC" ++ x ++ "D" ++ y ++ String.singleton dir.suffix ∧
        DecimalText x c ∧ DecimalText y d := by
  rw [parseNodeName?_eq]
  simp only [Option.bind_eq_some_iff, dropPrefix?_toString_eq_some_iff, directionOf?_eq_some_iff,
    parseU32?_eq_some_iff, Option.some.injEq, Prod.mk.injEq]
  constructor
  · rintro ⟨rest, rfl, ⟨card, tail⟩, hsplit, dir', hlast, c', hc, d', hd, rfl, rfl, rfl⟩
    rw [splitOnce_eq_some_iff] at hsplit
    obtain ⟨init, hinit⟩ := List.getLast?_eq_some_iff.1 hlast
    dsimp only at hc hd hinit
    rw [hinit, List.dropLast_concat] at hd
    refine ⟨card, String.ofList init, ?_, hc, hd⟩
    rw [← String.toList_inj]
    simp [String.toList_append, hsplit.1, hinit]
  · rintro ⟨x, y, rfl, hx, hy⟩
    refine ⟨x ++ "D" ++ y ++ String.singleton dir.suffix, by simp only [String.append_assoc],
      (x, y ++ String.singleton dir.suffix), ?_, dir, ?_, c, hx, d, ?_, rfl, rfl, rfl⟩
    · rw [splitOnce_eq_some_iff]
      refine ⟨by simp [String.toList_append], not_mem_of_decimalText hx (by decide) (by decide)⟩
    · simp
    · simpa [String.toList_append] using hy

theorem parseNodeName?_pcmNodeName (c d : UInt32) (dir : Direction) :
    parseNodeName? (pcmNodeName c.toNat d.toNat dir) = some (c.toNat, d.toNat, dir) :=
  parseNodeName?_eq_some_iff.2 ⟨toString c.toNat, toString d.toNat, rfl,
    decimalText_toString c.toNat_lt_size, decimalText_toString d.toNat_lt_size⟩

/-! ## Names of the form hw:card,device -/

theorem splitOnce_eq_none_iff {s : String} {c : Char} : splitOnce s c = none ↔ c ∉ s.toList := by
  unfold splitOnce
  dsimp only
  split
  · rename_i i h
    simp only [reduceCtorEq, false_iff, not_not]
    obtain ⟨hi, hget, -⟩ := List.idxOf?_eq_some_iff.1 h
    exact hget ▸ List.getElem_mem hi
  · rename_i h
    simp only [true_iff]
    exact List.idxOf?_eq_none_iff.1 h

theorem trimBlank_of_forall {s : String} (h : ∀ c ∈ s.toList, isBlank c = false) :
    trimBlank s = s := by
  have hkeep : ∀ l : List Char, (∀ c ∈ l, isBlank c = false) → l.dropWhile isBlank = l :=
    fun l hl => List.dropWhile_eq_self_iff.2 fun hl0 => by simp [hl _ (List.getElem_mem hl0)]
  unfold trimBlank
  rw [hkeep _ h, hkeep _ (fun c hc => h c (List.mem_reverse.1 hc)), List.reverse_reverse,
    String.ofList_toList]

theorem not_isBlank_of_isDigit {c : Char} (h : c.isDigit) : isBlank c = false := by
  have h0 : ('0' : Char).val.toNat = 48 := rfl
  have h9 : ('9' : Char).val.toNat = 57 := rfl
  simp only [Char.isDigit, Bool.and_eq_true, decide_eq_true_eq, ge_iff_le,
    UInt32.le_iff_toNat_le, h0, h9] at h
  simp only [isBlank, Char.toNat, Bool.or_eq_false_iff, Bool.and_eq_false_iff,
    decide_eq_false_iff_not, beq_eq_false_iff_ne]
  omega

theorem not_isBlank_of_mem_toString {n : Nat} {c : Char} (hc : c ∈ (toString n).toList) :
    isBlank c = false := by
  rw [Nat.toString_eq_repr, Nat.toList_repr] at hc
  exact not_isBlank_of_isDigit (Nat.isDigit_of_mem_toDigits (by decide) (by decide) hc)

theorem trimBlank_zero : trimBlank "0" = "0" :=
  trimBlank_of_forall fun _ hc => not_isBlank_of_mem_toString (n := 0) hc

theorem decimalText_zero_iff {d : Nat} : DecimalText "0" d ↔ d = 0 := by
  rw [← parseU32?_eq_some_iff, show parseU32? "0" = some 0 by decide, Option.some.injEq, eq_comm]

theorem parseHwName?_eq (name : String) :
    parseHwName? name =
      (((trimBlank name).dropPrefix? "hw:").map (·.toString)).bind fun rest =>
        (parseU32? (trimBlank ((splitOnce rest ',').getD (rest, "0")).1)).bind fun c =>
          (parseU32? (trimBlank ((splitOnce rest ',').getD (rest, "0")).2)).bind fun v =>
            some (c, v) := rfl

/-- A `hw:` name is read exactly when, trimmed, it is `hw:`, a card part with no comma, and an
optional comma and device part, each a decimal once trimmed. -/
theorem parseHwName?_eq_some_iff {name : String} {c d : Nat} :
    parseHwName? name = some (c, d) ↔
      ∃ x, ',' ∉ x.toList ∧ DecimalText (trimBlank x) c ∧
        ((trimBlank name = "hw:" ++ x ∧ d = 0) ∨
          ∃ y, trimBlank name = "hw:" ++ x ++ "," ++ y ∧ DecimalText (trimBlank y) d) := by
  rw [parseHwName?_eq]
  simp only [Option.bind_eq_some_iff, dropPrefix?_toString_eq_some_iff, parseU32?_eq_some_iff,
    Option.some.injEq, Prod.mk.injEq]
  constructor
  · rintro ⟨rest, hrest, c', hc, d', hd, rfl, rfl⟩
    rcases hsplit : splitOnce rest ',' with _ | ⟨x, y⟩
    · rw [hsplit, Option.getD_none] at hc hd
      refine ⟨rest, splitOnce_eq_none_iff.1 hsplit, hc, .inl ⟨hrest, ?_⟩⟩
      exact decimalText_zero_iff.1 (trimBlank_zero ▸ hd)
    · rw [hsplit, Option.getD_some] at hc hd
      obtain ⟨hparts, hx⟩ := splitOnce_eq_some_iff.1 hsplit
      refine ⟨x, hx, hc, .inr ⟨y, ?_, hd⟩⟩
      rw [hrest, ← String.toList_inj]
      simp [String.toList_append, hparts]
  · rintro ⟨x, hx, hc, ⟨hname, rfl⟩ | ⟨y, hname, hd⟩⟩
    · have hsplit : splitOnce x ',' = none := splitOnce_eq_none_iff.2 hx
      refine ⟨x, hname, c, by rw [hsplit, Option.getD_none]; exact hc, 0, ?_, rfl, rfl⟩
      rw [hsplit, Option.getD_none, trimBlank_zero]
      exact decimalText_zero_iff.2 rfl
    · have hsplit : splitOnce (x ++ "," ++ y) ',' = some (x, y) :=
        splitOnce_eq_some_iff.2 ⟨by simp [String.toList_append], hx⟩
      refine ⟨x ++ "," ++ y, by rw [hname]; simp only [String.append_assoc], c, ?_, d, ?_, rfl, rfl⟩
      · rw [hsplit, Option.getD_some]
        exact hc
      · rw [hsplit, Option.getD_some]
        exact hd

/-- The name `hw:card,device` reads back as the card and device. -/
theorem parseHwName?_hw (c d : UInt32) :
    parseHwName? ("hw:" ++ toString c.toNat ++ "," ++ toString d.toNat) = some (c.toNat, d.toNat) := by
  have hdigits : ∀ n : Nat, trimBlank (toString n) = toString n := fun n =>
    trimBlank_of_forall fun _ => not_isBlank_of_mem_toString
  have hname : trimBlank ("hw:" ++ toString c.toNat ++ "," ++ toString d.toNat) =
      "hw:" ++ toString c.toNat ++ "," ++ toString d.toNat := by
    apply trimBlank_of_forall
    intro ch hch
    simp only [String.toList_append, List.mem_append] at hch
    rcases hch with ((hch | hch) | hch) | hch
    · rw [show ("hw:" : String).toList = ['h', 'w', ':'] from rfl] at hch
      simp only [List.mem_cons, List.not_mem_nil, or_false] at hch
      rcases hch with rfl | rfl | rfl <;> decide
    · exact not_isBlank_of_mem_toString hch
    · rw [show ("," : String).toList = [','] from rfl, List.mem_singleton] at hch
      rw [hch]
      decide
    · exact not_isBlank_of_mem_toString hch
  refine parseHwName?_eq_some_iff.2 ⟨toString c.toNat, ?_, ?_, .inr ⟨toString d.toNat, hname, ?_⟩⟩
  · exact not_mem_of_decimalText (decimalText_toString c.toNat_lt_size) (by decide) (by decide)
  · rw [hdigits]
    exact decimalText_toString c.toNat_lt_size
  · rw [hdigits]
    exact decimalText_toString d.toNat_lt_size

/-- Decimals, stream node names and `hw:` names are read exactly from the texts the library
writes, and a name that is not read opens only a handle that is not ready. -/
theorem device_names_read_back :
    (∀ s n, parseU32? s = some n ↔ DecimalText s n) ∧
    (∀ name c d dir, parseNodeName? name = some (c, d, dir) ↔
      ∃ x y, name = "pcmC" ++ x ++ "D" ++ y ++ String.singleton dir.suffix ∧
        DecimalText x c ∧ DecimalText y d) ∧
    (∀ (c d : UInt32) dir,
      parseNodeName? (pcmNodeName c.toNat d.toNat dir) = some (c.toNat, d.toNat, dir)) ∧
    (∀ name c d, parseHwName? name = some (c, d) ↔
      ∃ x, ',' ∉ x.toList ∧ DecimalText (trimBlank x) c ∧
        ((trimBlank name = "hw:" ++ x ∧ d = 0) ∨
          ∃ y, trimBlank name = "hw:" ++ x ++ "," ++ y ∧ DecimalText (trimBlank y) d)) ∧
    (∀ c d : UInt32,
      parseHwName? ("hw:" ++ toString c.toNat ++ "," ++ toString d.toNat) = some (c.toNat, d.toNat)) ∧
    (∀ host dir name flags config, parseHwName? name = none →
      openPcmByName host dir name flags config =
        pure (PcmStream.notReadyOf default flags config
          (.invalidArgument s!"invalid pcm name '{name}'"))) := by
  refine ⟨fun _ _ => parseU32?_eq_some_iff, fun _ _ _ _ => parseNodeName?_eq_some_iff,
    parseNodeName?_pcmNodeName, fun _ _ _ => parseHwName?_eq_some_iff, parseHwName?_hw, ?_⟩
  intro host dir name flags config h
  simp only [openPcmByName, h]

end SoundCard.Device
