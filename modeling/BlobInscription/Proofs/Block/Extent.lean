import BlobInscription.Proofs.Block.Encoding
import BlobInscription.Proofs.Transaction.Extent

namespace BlobInscription

open Wire (Takes Recorder Exacting)

theorem BlockHeader.takes_read : Takes 80 BlockHeader.read := by
  show Takes (4 + (32 + (32 + (4 + (4 + 4))))) BlockHeader.read
  apply (Wire.takes_readSigned 4).bind
  intro version
  apply (Wire.takes_read 32).bind
  intro prevBlockHash
  apply (Wire.takes_read 32).bind
  intro merkleRoot
  apply (Wire.takes_readUnsigned 4).bind
  intro time
  apply (Wire.takes_readUnsigned 4).bind
  intro bits
  exact (Wire.takes_readUnsigned 4).map

namespace RawBlock

theorem takes_read : Takes 81 RawBlock.read :=
  BlockHeader.takes_read.bind fun _ => (Wire.takes_readList Transaction.takes_read).map

/-- Reads a block, with a record. -/
def record : Recorder RawBlock := do
  let header ← Recorder.ofReader BlockHeader.read
  let transactions ← Transaction.record.list
  return { header, transactions }

/-- The block that takes up all the bytes, with the record of its reading. -/
def recorded (raw : Bytes) : Except Wire.ReadError RawBlock × List Wire.Entry :=
  record.all "block" raw

/-- The number of transactions and of what they list. -/
def elements (b : RawBlock) : Nat :=
  (b.transactions.map fun tx => tx.elements + 1).sum

theorem records_read : record.Records RawBlock.read :=
  (Recorder.records_ofReader _).bind fun _ =>
    Transaction.records_read.list.bind fun _ => Recorder.records_pure _

theorem meters_record : record.Meters 81 :=
  (Recorder.meters_ofReader BlockHeader.takes_read.length_le).bind fun _ =>
    (Transaction.meters_record.mono (by decide)).list.bind fun _ => Recorder.meters_pure _

theorem counts_record : record.Counts elements := by
  intro c c' b entries hrun
  obtain ⟨header, c₁, first, _, hheader, hlast, rfl⟩ := Recorder.bind_eq_ok.mp hrun
  obtain ⟨transactions, c₂, second, _, hlist, hpure, rfl⟩ := Recorder.bind_eq_ok.mp hlast
  cases hpure
  simp only [List.count_append, List.count_nil, Recorder.counts_ofReader _ hheader,
    Transaction.counts_record.list hlist, elements, Nat.zero_add, Nat.add_zero]

theorem steady_record : record.Steady :=
  (Recorder.steady_ofReader BlockHeader.takes_read).bind fun _ =>
    Transaction.steady_record.list.bind fun _ => Recorder.steady_pure _

end RawBlock

/-- Transactions and blocks are parsed to the last byte: with bytes missing or added they are
refused, in no other way than by an error of the reader, and never are more list elements decoded
than there are bytes. -/
theorem exacting_ofBytes :
    Exacting "transaction" Transaction.ofBytes Transaction.recorded Transaction.elements ∧
      Exacting "block" RawBlock.ofBytes RawBlock.recorded RawBlock.elements := by
  constructor
  · exact Wire.exacting_readAll Transaction.takes_read Transaction.records_read
      (Transaction.meters_record.mono (Nat.zero_le _)) Transaction.counts_record
      Transaction.steady_record.grows "transaction"
  · exact Wire.exacting_readAll RawBlock.takes_read RawBlock.records_read
      (RawBlock.meters_record.mono (Nat.zero_le _)) RawBlock.counts_record
      RawBlock.steady_record.grows "block"

/-- An input with a witness, whole, short of its last byte, and with a byte behind it; and a string
that announces more inputs than it has bytes. Then the same of a block of two such transactions,
and of one that announces more of them. -/
theorem exacting_ofBytes_spend :
    let raw : Bytes := [2, 0, 0, 0, 0, 1, 1] ++ List.replicate 32 7 ++
      [1, 0, 0, 0, 0, 255, 255, 255, 255, 0, 1, 1, 9, 0, 0, 0] ++ [0]
    let boundless : Bytes := [2, 0, 0, 0] ++ List.replicate 9 255 ++ List.replicate 50 0
    let block : Bytes := List.replicate 80 0 ++ [2] ++ raw ++ raw
    let crowd : Bytes := List.replicate 80 0 ++ List.replicate 9 255 ++ raw
    (∃ tx e, Transaction.ofBytes raw = .ok tx ∧
      (Transaction.recorded raw).2.count .element = tx.elements ∧
      Transaction.ofBytes (raw ++ [0]) = .error (.trailing "transaction") ∧
      Transaction.ofBytes raw.dropLast = .error e ∧ e ≠ .trailing "transaction" ∧
      (Transaction.recorded raw.dropLast).2.count .element ≤ tx.elements) ∧
    Transaction.ofBytes boundless = .error (.truncated 32 54) ∧
    (Transaction.recorded boundless).2.count .element ≤ boundless.length ∧
    (∃ b e, RawBlock.ofBytes block = .ok b ∧ b.elements = 6 ∧
      (RawBlock.recorded block).2.count .element = 6 ∧
      RawBlock.ofBytes (block ++ [0]) = .error (.trailing "block") ∧
      RawBlock.ofBytes block.dropLast = .error e ∧ e ≠ .trailing "block" ∧
      (RawBlock.recorded block.dropLast).2.count .element ≤ 6) ∧
    RawBlock.ofBytes crowd = .error (.truncated 4 145) ∧
    (RawBlock.recorded crowd).2.count .element ≤ crowd.length := by
  intro raw boundless block crowd
  obtain ⟨htransaction, hblock⟩ := exacting_ofBytes
  obtain ⟨tx, htx⟩ : Traversal.Succeeds (Transaction.ofBytes raw) := by decide +kernel
  have hboundless : Transaction.ofBytes boundless = .error (.truncated 32 54) := by decide +kernel
  have hsix : (RawBlock.ofBytes block).map RawBlock.elements = .ok 6 := by decide +kernel
  obtain ⟨b, hb, helements⟩ := Traversal.map_eq_ok.mp hsix
  have hcrowd : RawBlock.ofBytes crowd = .error (.truncated 4 145) := by decide +kernel
  have hmore : ([0] : Bytes) ≠ [] := List.cons_ne_nil _ _
  refine ⟨?_, hboundless, htransaction.elements_le boundless, ?_, hcrowd,
    hblock.elements_le crowd⟩
  · obtain ⟨e, he, wanted, offset, rfl, -⟩ := htransaction.cut raw.dropLast [0] tx htx hmore
    have hmet := htransaction.elements_eq raw tx htx
    refine ⟨tx, _, htx, hmet, htransaction.extended raw [0] tx htx hmore, he, nofun, ?_⟩
    rw [← hmet]
    exact htransaction.elements_mono raw.dropLast [0]
  · obtain ⟨e, he, wanted, offset, rfl, -⟩ := hblock.cut block.dropLast [0] b hb hmore
    have hmet := hblock.elements_eq block b hb
    rw [helements] at hmet
    refine ⟨b, _, hb, helements, hmet, hblock.extended block [0] b hb hmore, he, nofun, ?_⟩
    rw [← hmet]
    exact hblock.elements_mono block.dropLast [0]

end BlobInscription
