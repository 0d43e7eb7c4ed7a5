/-
The PS/2 mouse decoder (`driver/input/mouse`).

* `decoded_movements_iff` (**movements**): decoded as encoded exactly when they fit eight bits.
-/
import ManaOS.Lib.Checked

namespace ManaOS

structure MousePacket where
  deltaX : ℤ
  deltaY : ℤ
  leftButton : Bool
  rightButton : Bool
  middleButton : Bool
  deriving DecidableEq

/-- `MousePacket::parse`: no packet without the synchronisation bit. -/
def MousePacket.parse (b0 b1 b2 : UInt8) : Option MousePacket :=
  if b0 &&& 0x08 = 0 then none
  else some ⟨b1.toInt8.toInt, -b2.toInt8.toInt, b0 &&& 0x01 ≠ 0, b0 &&& 0x02 ≠ 0, b0 &&& 0x04 ≠ 0⟩

structure PacketDecoder where
  firstByte : UInt8 := 0
  secondByte : UInt8 := 0
  count : ℕ := 0

namespace PacketDecoder

def pushByte (decoder : PacketDecoder) (byte : UInt8) : Option MousePacket × PacketDecoder :=
  match decoder.count with
  | 0 =>
    if byte &&& 0x08 ≠ 0 then (none, { decoder with firstByte := byte, count := 1 })
    else (none, decoder)
  | 1 => (none, { decoder with secondByte := byte, count := 2 })
  | 2 => (MousePacket.parse decoder.firstByte decoder.secondByte byte, { decoder with count := 0 })
  | _ => (none, { decoder with count := 0 })

/-- The packets that the loop of `process_packets` decodes. -/
def processPackets (decoder : PacketDecoder) : List UInt8 → List MousePacket
  | [] => []
  | byte :: bytes =>
    let (packet, decoder) := decoder.pushByte byte
    packet.toList ++ decoder.processPackets bytes

end PacketDecoder

/-- What the mouse reports: two movements in two's complement and three buttons. -/
structure MouseReport where
  x : BitVec 9
  y : BitVec 9
  left : Bool
  right : Bool
  middle : Bool

namespace MouseReport

/-- Clear overflow bits, two signs, the synchronisation bit and three buttons. -/
def statusByte (ySign xSign middle right left : Bool) : UInt8 := ⟨0#2 ++ BitVec.ofBool ySign ++
  BitVec.ofBool xSign ++ 1#1 ++ BitVec.ofBool middle ++ BitVec.ofBool right ++ BitVec.ofBool left⟩

/-- The three bytes of a report. -/
def encode (report : MouseReport) : List UInt8 := [statusByte report.y.msb
  report.x.msb report.middle report.right report.left, ⟨report.x.setWidth 8⟩, ⟨report.y.setWidth 8⟩]

/-- The packet of a report, with the movements it encodes. -/
def packet (report : MouseReport) : MousePacket :=
  ⟨report.x.toInt, -report.y.toInt, report.left, report.right, report.middle⟩

/-- The packet that is decoded: the sign bits are not read. -/
def received (report : MouseReport) : MousePacket :=
  { report.packet with
    deltaX := (report.x.setWidth 8).toInt, deltaY := -(report.y.setWidth 8).toInt }

lemma toInt_setWidth_eq_iff (x : BitVec 9) :
  (x.setWidth 8).toInt = x.toInt ↔ -128 ≤ x.toInt ∧ x.toInt < 128 := by
  have hlt := x.isLt
  rw [BitVec.toInt_setWidth, BitVec.toInt_eq_toNat_cond, Int.bmod_def]
  split <;> split <;> omega

lemma received_eq_packet_iff (report : MouseReport) :
    report.received = report.packet ↔
      (-128 ≤ report.x.toInt ∧ report.x.toInt < 128) ∧
      -128 ≤ report.y.toInt ∧
      report.y.toInt < 128 := by
  rw [received, packet, ← toInt_setWidth_eq_iff, ← toInt_setWidth_eq_iff]
  simp

lemma statusByte_bits : ∀ ySign xSign middle right left : Bool,
  let b0 := statusByte ySign xSign middle right left
  b0 &&& 0x08 ≠ 0 ∧ decide (b0 &&& 0x01 ≠ 0) = left ∧ decide (b0 &&& 0x02 ≠ 0) = right ∧
    decide (b0 &&& 0x04 ≠ 0) = middle := by
  decide

lemma processPackets_encode (decoder : PacketDecoder) (hcount : decoder.count = 0)
  (report : MouseReport) (bytes : List UInt8) : ∃ decoder' : PacketDecoder, decoder'.count = 0 ∧
  decoder.processPackets (report.encode ++ bytes) =
    report.received :: decoder'.processPackets bytes := by
  have hbits := statusByte_bits report.y.msb report.x.msb report.middle report.right report.left
  rw [encode]
  generalize statusByte .. = b0 at hbits ⊢
  obtain ⟨hsync, hleft, hright, hmiddle⟩ := hbits
  have hparse : MousePacket.parse b0 ⟨report.x.setWidth 8⟩ ⟨report.y.setWidth 8⟩ =
    some report.received := by
    rw [MousePacket.parse, if_neg hsync, hleft, hright, hmiddle]
    rfl
  refine ⟨⟨b0, ⟨report.x.setWidth 8⟩, 0⟩, rfl, ?_⟩
  simp only [List.cons_append, List.nil_append, PacketDecoder.processPackets,
    PacketDecoder.pushByte, hcount, if_pos hsync, Option.toList_none, hparse, Option.toList_some]

lemma processPackets_flatMap (decoder : PacketDecoder) (hcount : decoder.count = 0)
  (reports : List MouseReport) :
  decoder.processPackets (reports.flatMap encode) = reports.map received := by
  induction reports generalizing decoder with
  | nil => rfl
  | cons report reports ih =>
    obtain ⟨decoder', hcount', hstep⟩ :=
      processPackets_encode decoder hcount report (reports.flatMap encode)
    rw [List.flatMap_cons, hstep, ih decoder' hcount', List.map_cons]

/-- **The movements are decoded as they were encoded exactly when all of them fit eight bits.** -/
theorem decoded_movements_iff (reports : List MouseReport) :
    ({} : PacketDecoder).processPackets (reports.flatMap encode) = reports.map packet ↔
      ∀ report ∈ reports,
        (-128 ≤ report.x.toInt ∧ report.x.toInt < 128) ∧
        -128 ≤ report.y.toInt ∧
        report.y.toInt < 128 := by
  rw [processPackets_flatMap _ rfl, List.map_inj_left]
  exact forall₂_congr fun report _ => report.received_eq_packet_iff

/-- A fast movement to the right arrives as one to the left. -/
theorem fast_movement_reversed :
    (({} : PacketDecoder).processPackets (encode ⟨200, 0, false, false, false⟩)).map (·.deltaX) =
      [-56] ∧
    (packet ⟨200, 0, false, false, false⟩).deltaX = 200 := by
  decide

end MouseReport
end ManaOS
