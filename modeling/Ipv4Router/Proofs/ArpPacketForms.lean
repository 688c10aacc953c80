import Ipv4Router.Proofs.CheckedPackets

/-!
# The form of ARP packets

An ARP packet is written over the start of an octet string by a cursor that lays down one field
after the other and stops the machine where a field finds no room.  Room for all of them is
asked for beforehand, so the cursor gets through, and by then it has covered the twenty-eight
octets of the form and no others.

Reading compares the octets that all known packets share, and takes the rest of the form as it
is.  Nothing in the form is left out of account, which is why a packet determines the octets it
was read from, and these the packet.
-/

namespace Ipv4Router

open Checked

namespace Octets

/-- Lay down fields from a place on, each of which must find room behind the one before it. -/
def checkedWriteFields (octets : Octets) (place : Nat) : List Octets → Checked Octets
  | [] => return octets
  | field :: rest => do
      let written ← octets.checkedCopy place (place + field.length) field
      checkedWriteFields written (place + field.length) rest

theorem checkedWriteFields_eq {octets : Octets} {place : Nat} {fields : List Octets}
    (room : place + fields.flatten.length ≤ octets.length) :
    octets.checkedWriteFields place fields = .ok (octets.overwrite place fields.flatten) := by
  induction fields generalizing octets place with
  | nil => rfl
  | cons field rest ih =>
      rw [List.flatten_cons, List.length_append] at room
      have fieldRoom : place + field.length ≤ octets.length := by omega
      have restRoom : place + field.length + rest.flatten.length ≤
          (octets.overwrite place field).length := by
        rw [length_overwrite]
        omega
      rw [checkedWriteFields, checkedCopy_eq rfl fieldRoom, ok_bind, ih restRoom,
        List.flatten_cons, overwrite_append]

end Octets

namespace ArpPacket

/-- The fields of a packet in the order in which they are written. -/
def fields (packet : ArpPacket) : List Octets :=
  [Octets.ofWord 1, Octets.ofWord 0x0800, [6], [4], Octets.ofWord packet.operation.code,
    packet.sourceMac.toOctets, packet.sourceAddress.toOctets,
    packet.targetMac.toOctets, packet.targetAddress.toOctets]

/-- Write a packet in place, field by field.  The result is what the octet string holds
afterwards, and whether there was room. -/
def checkedWriteInPlace (packet : ArpPacket) (octets : Octets) :
    Checked (Octets × Except PacketError Unit) :=
  if octets.length < length then return (octets, .error .tooShort)
  else return (← octets.checkedWriteFields 0 packet.fields, .ok ())

variable {packet : ArpPacket} {octets : Octets}

theorem flatten_fields (packet : ArpPacket) : packet.fields.flatten = packet.toOctets :=
  rfl

theorem checkedWriteInPlace_of_short (short : octets.length < length) :
    packet.checkedWriteInPlace octets = .ok (octets, .error .tooShort) :=
  if_pos short

theorem checkedWriteInPlace_of_long (long : length ≤ octets.length) :
    packet.checkedWriteInPlace octets =
      .ok (packet.toOctets ++ octets.drop length, .ok ()) := by
  have room : 0 + packet.fields.flatten.length ≤ octets.length := by
    rw [flatten_fields, length_toOctets, Nat.zero_add]
    exact long
  rw [checkedWriteInPlace, if_neg (Nat.not_lt_of_le long), Octets.checkedWriteFields_eq room,
    ok_bind, Octets.overwrite_eq_append room, flatten_fields, length_toOctets, Nat.zero_add]
  rfl

theorem checkedWriteInPlace_eq_tooShort_iff :
    packet.checkedWriteInPlace octets = .ok (octets, .error .tooShort) ↔
      octets.length < length := by
  constructor
  · intro refused
    rcases Nat.lt_or_ge octets.length length with short | long
    · exact short
    · rw [checkedWriteInPlace_of_long long] at refused
      cases congrArg (Except.map Prod.snd) refused
  · exact checkedWriteInPlace_of_short

theorem writeInto_of_long (long : length ≤ octets.length) :
    packet.writeInto octets = .ok (packet.toOctets ++ octets.drop length) :=
  if_neg (Nat.not_lt_of_le long)

theorem writeInto_eq_tooShort_iff :
    packet.writeInto octets = .error .tooShort ↔ octets.length < length := by
  constructor
  · intro refused
    rcases Nat.lt_or_ge octets.length length with short | long
    · exact short
    · rw [writeInto_of_long long] at refused
      cases refused
  · exact fun short => if_pos short

end ArpPacket

theorem Octets.word_eq_iff {high low : UInt8} {value : UInt16} :
    word high low = value ↔ [high, low] = ofWord value := by
  constructor
  · rintro rfl
    exact (ofWord_word high low).symm
  · intro same
    cases same
    exact word_ofWord value

namespace ArpOperation

theorem ofCode?_eq_some_iff {code : UInt16} {operation : ArpOperation} :
    ofCode? code = some operation ↔ operation.code = code := by
  constructor
  · intro known
    simp only [ofCode?] at known
    split at known
    next request =>
      cases known
      exact request.symm
    split at known
    next reply =>
      cases known
      exact reply.symm
    · cases known
  · rintro rfl
    exact ofCode?_code operation

theorem exists_ofCode?_iff {code : UInt16} :
    (∃ operation, ofCode? code = some operation) ↔ code = 1 ∨ code = 2 := by
  constructor
  · rintro ⟨operation, known⟩
    rw [ofCode?_eq_some_iff] at known
    cases operation with
    | request => exact Or.inl known.symm
    | reply => exact Or.inr known.symm
  · rintro (rfl | rfl)
    · exact ⟨.request, rfl⟩
    · exact ⟨.reply, rfl⟩

end ArpOperation

namespace ArpPacket

variable {packet : ArpPacket} {octets : Octets}

/-- The octets that all known packets have in common, and an operation that is known. -/
structure KnownForm (octets : Octets) : Prop where
  hardwareType : octets.wordAt 0 = 1
  protocolType : octets.wordAt 2 = 0x0800
  hardwareLength : octets.octetAt 4 = 6
  protocolLength : octets.octetAt 5 = 4
  operation : octets.wordAt 6 = 1 ∨ octets.wordAt 6 = 2

theorem take_eq_preamble_iff (long : length ≤ octets.length) :
    octets.take 6 = preamble ↔
      octets.wordAt 0 = 1 ∧ octets.wordAt 2 = 0x0800 ∧ octets.octetAt 4 = 6 ∧
        octets.octetAt 5 = 4 := by
  match octets, long with
  | first :: second :: third :: fourth :: fifth :: sixth :: _, _ =>
    change [first, second, third, fourth, fifth, sixth] = preamble ↔
      Octets.word first second = 1 ∧ Octets.word third fourth = 0x0800 ∧ fifth = 6 ∧ sixth = 4
    rw [Octets.word_eq_iff, Octets.word_eq_iff]
    simp [preamble, Octets.ofWord, and_assoc]

theorem knownForm_iff (long : length ≤ octets.length) :
    KnownForm octets ↔
      octets.take 6 = preamble ∧
        ∃ operation, ArpOperation.ofCode? (octets.wordAt 6) = some operation := by
  rw [take_eq_preamble_iff long, ArpOperation.exists_ofCode?_iff]
  constructor
  · intro form
    exact ⟨⟨form.hardwareType, form.protocolType, form.hardwareLength, form.protocolLength⟩,
      form.operation⟩
  · rintro ⟨⟨hardwareType, protocolType, hardwareLength, protocolLength⟩, operation⟩
    exact ⟨hardwareType, protocolType, hardwareLength, protocolLength, operation⟩

/-- What reading comes to: the string is too short, its form is unknown, or it holds a packet. -/
theorem ofOctets_cases (octets : Octets) :
    (octets.length < length ∧ ofOctets octets = .error .tooShort) ∨
    (length ≤ octets.length ∧ ¬ KnownForm octets ∧ ofOctets octets = .error .malformed) ∨
    (length ≤ octets.length ∧ KnownForm octets ∧ ∃ packet, ofOctets octets = .ok packet) := by
  rcases Nat.lt_or_ge octets.length length with short | long
  · exact Or.inl ⟨short, if_pos short⟩
  refine Or.inr ?_
  have notShort : ¬ octets.length < length := Nat.not_lt_of_le long
  rw [knownForm_iff long]
  by_cases start : octets.take 6 = preamble
  · cases operationEq : ArpOperation.ofCode? (octets.wordAt 6) with
    | none =>
        refine Or.inl ⟨long, ?_, ?_⟩
        · rintro ⟨-, operation, impossible⟩
          cases impossible
        · simp only [ofOctets, if_neg notShort, if_neg (not_not_intro start), operationEq]
    | some operation =>
        refine Or.inr ⟨long, ⟨start, operation, rfl⟩, ?_⟩
        simp only [ofOctets, if_neg notShort, if_neg (not_not_intro start), operationEq]
        exact ⟨_, rfl⟩
  · refine Or.inl ⟨long, fun form => start form.1, ?_⟩
    simp only [ofOctets, if_neg notShort, if_pos start]

end ArpPacket

theorem Octets.take_drop_eq_map {octets : Octets} {offset count : Nat}
    (inside : offset + count ≤ octets.length) :
    (octets.drop offset).take count =
      (List.range count).map (fun step => octets.octetAt (offset + step)) := by
  apply ext_octetAt
  · rw [List.length_take, List.length_drop, List.length_map, List.length_range]
    omega
  · intro step
    rcases Nat.lt_or_ge step count with before | behind
    · rw [octetAt_take before, octetAt_drop]
      simp [octetAt, before]
    · rw [octetAt_of_length_le, octetAt_of_length_le]
      · rwa [List.length_map, List.length_range]
      · exact Nat.le_trans (List.length_take_le _ _) behind

theorem MacAddress.toOctets_readAt {octets : Octets} {offset : Nat}
    (inside : offset + 6 ≤ octets.length) :
    (MacAddress.readAt octets offset).toOctets = (octets.drop offset).take 6 := by
  rw [Octets.take_drop_eq_map inside]
  rfl

theorem Ipv4Address.toOctets_readAt {octets : Octets} {offset : Nat}
    (inside : offset + 4 ≤ octets.length) :
    (Ipv4Address.readAt octets offset).toOctets = (octets.drop offset).take 4 := by
  rw [Octets.take_drop_eq_map inside]
  rfl

namespace ArpPacket

variable {packet : ArpPacket} {octets : Octets}

/-- A packet is written as the octets from which it was read. -/
theorem toOctets_of_read (read : ofOctets octets = .ok packet) :
    packet.toOctets = octets.take length := by
  have fieldsEq : 28 ≤ octets.length ∧ octets.take 6 = preamble ∧
      packet.operation.code = octets.wordAt 6 ∧
      packet.sourceMac = MacAddress.readAt octets 8 ∧
      packet.sourceAddress = Ipv4Address.readAt octets 14 ∧
      packet.targetMac = MacAddress.readAt octets 18 ∧
      packet.targetAddress = Ipv4Address.readAt octets 24 := by
    simp only [ofOctets] at read
    split at read
    · cases read
    next notShort =>
      split at read
      · cases read
      next start =>
        split at read
        · cases read
        next operation known =>
          cases read
          exact ⟨Nat.le_of_not_lt notShort, Decidable.of_not_not start,
            ArpOperation.ofCode?_eq_some_iff.mp known, rfl, rfl, rfl, rfl⟩
  obtain ⟨long, start, operation, sourceMac, sourceAddress, targetMac, targetAddress⟩ := fieldsEq
  have operationField : Octets.ofWord packet.operation.code = (octets.drop 6).take 2 := by
    rw [operation, Octets.drop_eq_ofWord_append (by omega)]
    rfl
  calc
    packet.toOctets = octets.take 6 ++ (octets.drop 6).take 2 ++ (octets.drop 8).take 6 ++
        (octets.drop 14).take 4 ++ (octets.drop 18).take 6 ++ (octets.drop 24).take 4 := by
      rw [toOctets, start, operationField, sourceMac, sourceAddress, targetMac, targetAddress,
        MacAddress.toOctets_readAt (by omega), Ipv4Address.toOctets_readAt (by omega),
        MacAddress.toOctets_readAt (by omega), Ipv4Address.toOctets_readAt (by omega)]
    _ = octets.take length := by
      simp only [← List.take_add, Nat.reduceAdd, length]

/-- Every packet has a form of twenty-eight octets, from which it is read back whatever follows.
If an octet string has room for it, writing the packet in place covers as many octets with the
form and no others.  Otherwise the string stays as it was.

An octet string is too short to be read, or its form is unknown, or it holds a packet.  To write
this packet anywhere is to copy the first twenty-eight octets of the string. -/
theorem arp_packets_read_back :
    (∀ packet : ArpPacket, ∃ form : Octets, form.length = 28 ∧
      (∀ trailing, ofOctets (form ++ trailing) = .ok packet) ∧
      ∀ octets : Octets,
        (packet.checkedWriteInPlace octets = .ok (octets, .error .tooShort) ↔
          octets.length < 28) ∧
        (packet.writeInto octets = .error .tooShort ↔ octets.length < 28) ∧
        (28 ≤ octets.length →
          packet.checkedWriteInPlace octets = .ok (form ++ octets.drop 28, .ok ()) ∧
          packet.writeInto octets = .ok (form ++ octets.drop 28))) ∧
    ∀ octets : Octets,
      (ofOctets octets = .error .tooShort ↔ octets.length < 28) ∧
      (ofOctets octets = .error .malformed ↔ 28 ≤ octets.length ∧ ¬ KnownForm octets) ∧
      (28 ≤ octets.length → KnownForm octets → ∃ packet, ofOctets octets = .ok packet ∧
        ∀ other : Octets, 28 ≤ other.length →
          packet.writeInto other = .ok (octets.take 28 ++ other.drop 28)) := by
  constructor
  · intro packet
    refine ⟨packet.toOctets, packet.length_toOctets, ofOctets_toOctets packet, ?_⟩
    intro octets
    exact ⟨checkedWriteInPlace_eq_tooShort_iff, writeInto_eq_tooShort_iff,
      fun long => ⟨checkedWriteInPlace_of_long long, writeInto_of_long long⟩⟩
  · intro octets
    rcases ofOctets_cases octets with ⟨short, refused⟩ | ⟨long, unknown, refused⟩ |
      ⟨long, form, packet, read⟩
    · have notLong : ¬ 28 ≤ octets.length := Nat.not_le_of_lt short
      rw [refused]
      exact ⟨iff_of_true rfl short, iff_of_false nofun (fun unknown => notLong unknown.1),
        fun long => absurd long notLong⟩
    · have notShort : ¬ octets.length < 28 := Nat.not_lt_of_le long
      rw [refused]
      exact ⟨iff_of_false nofun notShort, iff_of_true rfl ⟨long, unknown⟩,
        fun _ form => absurd form unknown⟩
    · have notShort : ¬ octets.length < 28 := Nat.not_lt_of_le long
      rw [read]
      refine ⟨iff_of_false nofun notShort, iff_of_false nofun (fun unknown => unknown.2 form), ?_⟩
      intro _ _
      refine ⟨packet, rfl, ?_⟩
      intro other room
      rw [writeInto_of_long room, toOctets_of_read read]
      rfl

/-- A request is written over an octet string of ones and read back from it, and what was read in
front of two more octets is copied elsewhere.  With another operation the form is unknown. -/
theorem arp_packets_read_back_request :
    let request : ArpPacket :=
      ⟨.request, ⟨2, 0, 0, 0, 0, 1⟩, ⟨192, 168, 1, 2⟩, .unspecified, ⟨192, 168, 1, 1⟩⟩
    let full : Octets := List.replicate 30 0xFF
    let unknown : Octets := request.toOctets.setWord 6 3
    (∃ written, request.writeInto full = .ok written ∧ written.drop 28 = [0xFF, 0xFF] ∧
      ofOctets written = .ok request) ∧
    request.checkedWriteInPlace (full.take 27) = .ok (full.take 27, .error .tooShort) ∧
    ofOctets unknown = .error .malformed ∧
    ∃ packet, ofOctets (request.toOctets ++ [1, 2]) = .ok packet ∧
      packet.writeInto full = .ok (request.toOctets ++ [0xFF, 0xFF]) := by
  intro request full unknown
  obtain ⟨writing, reading⟩ := arp_packets_read_back
  obtain ⟨form, formLength, read, writes⟩ := writing request
  refine ⟨?_, (writes (full.take 27)).1.mpr (by decide), ?_, ?_⟩
  · have written := ((writes full).2.2 (by decide)).2
    exact ⟨_, written, by rw [← formLength, List.drop_left, formLength]; rfl, read _⟩
  · refine (reading unknown).2.1.mpr ⟨by decide, ?_⟩
    intro known
    exact absurd known.operation (by decide)
  · have known : KnownForm (request.toOctets ++ [1, 2]) :=
      ⟨by decide, by decide, by decide, by decide, by decide⟩
    obtain ⟨packet, readAgain, copies⟩ :=
      (reading (request.toOctets ++ [1, 2])).2.2 (by decide) known
    exact ⟨packet, readAgain, copies full (by decide)⟩

end ArpPacket

end Ipv4Router
