import SoundCard.Control.Bytes
/-! TLV transfer buffers: the numeric id, the payload length, then the payload in little-endian
32-bit words, the last one padded with zeros. -/
namespace SoundCard.Control

/-- A transfer buffer for `len` payload bytes: the header and zeroed payload words. -/
def tlvBuffer (numid : UInt32) (len : Nat) : List UInt32 :=
  [numid, UInt32.ofNat len] ++ List.replicate ((len + 3) / 4) 0

def wordBytes (w : UInt32) : List UInt8 :=
  [w.toUInt8, (w >>> 8).toUInt8, (w >>> 16).toUInt8, (w >>> 24).toUInt8]

/-- The word of up to four bytes, least significant first, missing bytes zero. -/
def bytesWord (bs : List UInt8) : UInt32 := UInt32.ofNat (readLE bs 0 4)

/-- Splits bytes into runs of four, the last possibly shorter. -/
def chunks4 : List UInt8 → List (List UInt8)
  | a :: b :: c :: d :: rest => [a, b, c, d] :: chunks4 rest
  | [] => []
  | short => [short]

/-- The payload of a buffer: the bytes of the words after the header, at most as many as
the length word says. -/
def tlvPayload (buf : List UInt32) : List UInt8 :=
  let len := (buf[1]?.getD 0).toNat
  ((buf.drop 2).flatMap wordBytes).take len

/-- Fills the payload words from `payload`, four bytes a word; words past the payload
keep their value and bytes past the words are dropped. -/
def tlvFill (buf : List UInt32) (payload : List UInt8) : List UInt32 :=
  let words := buf.drop 2
  let filled := (words.zip (chunks4 payload)).map fun (_, c) => bytesWord c
  buf.take 2 ++ filled ++ words.drop filled.length

/-- A run of at most four bytes padded with zeros to a whole word. -/
def padWord (c : List UInt8) : List UInt8 := c ++ List.replicate (4 - c.length) 0

theorem length_lt_four_of_ne {s : List UInt8}
    (h : ∀ (a b c d : UInt8) (rest : List UInt8), ¬s = a :: b :: c :: d :: rest) :
    s.length < 4 := by
  match s with
  | [] | [_] | [_, _] | [_, _, _] => simp
  | a :: b :: c :: d :: rest => exact absurd rfl (h a b c d rest)

theorem chunks4_length (p : List UInt8) : (chunks4 p).length = (p.length + 3) / 4 := by
  fun_induction chunks4 p with
  | case1 a b c d rest ih => simp [ih]; omega
  | case2 => rfl
  | case3 short h hne =>
    have := length_lt_four_of_ne h
    have : short.length ≠ 0 := by simpa using hne
    simp; omega

theorem length_le_of_mem_chunks4 {p c : List UInt8} (h : c ∈ chunks4 p) : c.length ≤ 4 := by
  fun_induction chunks4 p with
  | case1 a b c' d rest ih =>
    rcases List.mem_cons.1 h with rfl | h
    · simp
    · exact ih h
  | case2 => simp at h
  | case3 short hs _ =>
    rw [List.mem_singleton.1 h]
    exact Nat.le_of_lt (length_lt_four_of_ne hs)

/-- The padded runs of a payload are the payload followed by zeros. -/
theorem flatMap_padWord_chunks4 (p : List UInt8) :
    ∃ z, (chunks4 p).flatMap padWord = p ++ z := by
  fun_induction chunks4 p with
  | case1 a b c d rest ih =>
    obtain ⟨z, hz⟩ := ih
    exact ⟨z, by simp [padWord, hz]⟩
  | case2 => exact ⟨[], by simp⟩
  | case3 short _ _ => exact ⟨List.replicate (4 - short.length) 0, by simp [padWord]⟩

/-- A word made of at most four bytes gives them back, padded with zeros. -/
theorem wordBytes_bytesWord (c : List UInt8) (h : c.length ≤ 4) :
    wordBytes (bytesWord c) = padWord c := by
  match c, h with
  | [], _ => decide
  | [a], _ =>
    have := a.toNat_lt
    simp only [wordBytes, bytesWord, padWord, readLE, List.range_succ, List.range_zero]
    simp [← UInt8.toNat_inj, Nat.shiftRight_eq_div_pow]
    omega
  | [a, b], _ =>
    have := a.toNat_lt; have := b.toNat_lt
    simp only [wordBytes, bytesWord, padWord, readLE, List.range_succ, List.range_zero]
    simp [← UInt8.toNat_inj, Nat.shiftRight_eq_div_pow]
    omega
  | [a, b, c], _ =>
    have := a.toNat_lt; have := b.toNat_lt; have := c.toNat_lt
    simp only [wordBytes, bytesWord, padWord, readLE, List.range_succ, List.range_zero]
    simp [← UInt8.toNat_inj, Nat.shiftRight_eq_div_pow]
    omega
  | [a, b, c, d], _ =>
    have := a.toNat_lt; have := b.toNat_lt; have := c.toNat_lt; have := d.toNat_lt
    simp only [wordBytes, bytesWord, padWord, readLE, List.range_succ, List.range_zero]
    simp [← UInt8.toNat_inj, Nat.shiftRight_eq_div_pow]
    omega
  | _ :: _ :: _ :: _ :: _ :: _, h => simp only [List.length_cons] at h; omega

theorem flatMap_wordBytes_map_bytesWord (cs : List (List UInt8)) (h : ∀ c ∈ cs, c.length ≤ 4) :
    (cs.map bytesWord).flatMap wordBytes = cs.flatMap padWord := by
  induction cs with
  | nil => rfl
  | cons c cs ih =>
    simp only [List.map_cons, List.flatMap_cons]
    rw [wordBytes_bytesWord c (h c (by simp)), ih fun c' hc => h c' (by simp [hc])]

theorem map_zip_replicate {α β γ : Type} (l : List β) (x : α) (f : β → γ) :
    ((List.replicate l.length x).zip l).map (fun q => f q.2) = l.map f := by
  induction l with
  | nil => rfl
  | cons b l ih => simp [List.replicate_succ, ih]

/-- Filling a fresh buffer puts one word per run of the payload after the header. -/
theorem tlvFill_tlvBuffer (numid : UInt32) (p : List UInt8) :
    tlvFill (tlvBuffer numid p.length) p =
      numid :: UInt32.ofNat p.length :: (chunks4 p).map bytesWord := by
  have h := map_zip_replicate (chunks4 p) (0 : UInt32) bytesWord
  rw [chunks4_length] at h
  simp [tlvFill, tlvBuffer, h, chunks4_length]

theorem length_flatMap_wordBytes (ws : List UInt32) :
    (ws.flatMap wordBytes).length = 4 * ws.length := by
  induction ws with
  | nil => rfl
  | cons w ws ih => simp [wordBytes, ih]; omega

end SoundCard.Control
