import GeoRouter.Proofs.Freshness

/-!
# The two tests for duplicates

A packet with a number is tested by its stamp, one without by its timestamp alone, and both tests
read and write the same entry. Neither makes an entry or takes one out: a test that finds a packet
fresh leaves the key of the packet in the entry of its source, if there is one, and any other leaves
the table as it was. So whatever is tested in whatever order, the table differs in nothing but stamps,
and a packet that was found fresh is a duplicate from then on until another one is.
-/

namespace GeoRouter

theorem Timestamp.newer_self (t : Timestamp) : t.newer t = false := by
  simp [newer, Wraparound.newer]

/-- A packet as it is tested: by its stamp, or by its timestamp. -/
inductive Probe where
  | stamped (source : Address) (s : Stamp)
  | timed (source : Address) (timestamp : Timestamp)

namespace Probe

def mid : Probe → Mid
  | stamped source _ => source.mid
  | timed source _ => source.mid

def timestamp : Probe → Timestamp
  | stamped _ s => s.timestamp
  | timed _ timestamp => timestamp

/-- Whether the packet comes after the one whose key is stored. -/
def newer : Probe → Entry → Bool
  | stamped _ s, entry => s.newer entry.stamp
  | timed _ timestamp, entry => timestamp.newer entry.timestamp

/-- The entry with the key of the packet in place of its own. -/
def store : Probe → Entry → Entry
  | stamped _ s, entry => entry.restamp s
  | timed _ timestamp, entry => { entry with timestamp }

theorem mid_store (probe : Probe) (entry : Entry) : (probe.store entry).mid = entry.mid := by
  cases probe <;> rfl

theorem restamp_store (probe : Probe) (entry : Entry) (s : Stamp) :
    (probe.store entry).restamp s = entry.restamp s := by
  cases probe <;> rfl

theorem timestamp_store (probe : Probe) (entry : Entry) :
    (probe.store entry).timestamp = probe.timestamp := by
  cases probe <;> rfl

theorem newer_store (probe : Probe) (entry : Entry) : probe.newer (probe.store entry) = false := by
  cases probe with
  | stamped source s => exact s.newer_self
  | timed source timestamp => exact timestamp.newer_self

end Probe

namespace LocationTable

def probe (table : LocationTable) : Probe → Freshness × LocationTable
  | .stamped source s => table.detect source.mid s.sequence s.timestamp
  | .timed source timestamp => table.detectTimestamp source.mid timestamp

/-- A test in a run, with the table before and after it. -/
structure Trial where
  before : LocationTable
  probe : Probe
  answer : Freshness
  after : LocationTable

def probes (table : LocationTable) : List Probe → List Trial × LocationTable
  | [] => ([], table)
  | probe :: rest =>
    let (answer, after) := table.probe probe
    let (later, last) := after.probes rest
    (⟨table, probe, answer, after⟩ :: later, last)

/-! ### What is promised -/

/-- What a test answers and leaves. Of a station without an entry every packet is fresh. -/
inductive Probed (before : LocationTable) (probe : Probe) : Freshness → LocationTable → Prop where
  | stranger (absent : before.find? probe.mid = none) : Probed before probe .fresh before
  | fresh {earlier later : List Entry} {entry : Entry}
    (split : before.entries = earlier ++ entry :: later) (own : entry.mid = probe.mid)
    (first : ∀ other ∈ earlier, other.mid ≠ probe.mid) (newer : probe.newer entry = true) :
    Probed before probe .fresh ⟨⟨earlier ++ probe.store entry :: later, before.store.free⟩⟩
  | duplicate {entry : Entry} (found : before.find? probe.mid = some entry)
    (stale : probe.newer entry = false) : Probed before probe .duplicate before

/-- The packet is a duplicate if it comes again, as is one with its timestamp and a number that is
not newer than the one that is stored. -/
structure Settled (table : LocationTable) (probe : Probe) : Prop where
  again : table.probe probe = (.duplicate, table)
  notNewer : ∀ source stored number, source.mid = probe.mid →
    table.find? probe.mid = some stored → number.newer stored.sequence = false →
    table.probe (.stamped source ⟨probe.timestamp, number⟩) = (.duplicate, table)

/-- What holds of every test in a run. -/
structure Trial.Sound (trial : Trial) : Prop where
  probed : trial.before.Probed trial.probe trial.answer trial.after
  settled : trial.answer = .fresh → (trial.before.find? trial.probe.mid).isSome →
    trial.after.Settled trial.probe

/-! ### Single tests -/

/-- The entry of the source decides, and a newer packet leaves its key there. -/
theorem probe_eq (table : LocationTable) (probe : Probe) : table.probe probe =
    match table.find? probe.mid with
    | none => (.fresh, table)
    | some entry =>
      if probe.newer entry then (.fresh, table.modify probe.mid probe.store)
      else (.duplicate, table) := by
  cases probe with
  | stamped source s => rfl
  | timed source timestamp => rfl

section Found

variable {table : LocationTable} {probe : Probe} {entry : Entry}

theorem probe_of_stale (found : table.find? probe.mid = some entry)
    (stale : probe.newer entry = false) : table.probe probe = (.duplicate, table) := by
  rw [probe_eq, found]
  simp only [stale, Bool.false_eq_true, if_false]

theorem probe_of_newer (found : table.find? probe.mid = some entry)
    (newer : probe.newer entry = true) :
    table.probe probe = (.fresh, table.modify probe.mid probe.store) := by
  rw [probe_eq, found]
  simp only [newer, if_true]

theorem settled_of_stored (found : table.find? probe.mid = some (probe.store entry)) :
    table.Settled probe where
  again := probe_of_stale found (probe.newer_store entry)
  notNewer source stored number same there notNewer := by
    obtain rfl := Option.some.inj (found.symm.trans there)
    have known : table.find? (Probe.stamped source ⟨probe.timestamp, number⟩).mid =
        some (probe.store entry) := by
      rw [← found]
      exact congrArg table.find? same
    refine probe_of_stale known ?_
    show Stamp.newer ⟨probe.timestamp, number⟩ (probe.store entry).stamp = false
    rw [Stamp.newer, Entry.stamp, probe.timestamp_store, notNewer, Bool.and_false, Bool.or_false]
    exact probe.timestamp.newer_self

end Found

theorem probe_sound (table : LocationTable) (probe : Probe) :
    Trial.Sound ⟨table, probe, (table.probe probe).1, (table.probe probe).2⟩ := by
  cases found : table.find? probe.mid with
  | none =>
    have answered : table.probe probe = (.fresh, table) := by rw [probe_eq, found]
    rw [answered]
    refine ⟨.stranger found, fun _ known => ?_⟩
    rw [found] at known
    cases known
  | some entry =>
    cases newer : probe.newer entry with
    | false =>
      rw [probe_of_stale found newer]
      exact ⟨.duplicate found newer, nofun⟩
    | true =>
      rw [probe_of_newer found newer]
      obtain ⟨earlier, later, split, own, first, changed⟩ := SortedStore.modifyFirst_of_found found
      have stored := table.find?_modify probe.mid_store probe.mid probe.mid
      rw [if_pos rfl, found] at stored
      refine ⟨?_, fun _ _ => settled_of_stored stored⟩
      rw [modify_eq, changed probe.store]
      exact .fresh split (of_decide_eq_true own)
        (fun other member => of_decide_eq_false (first other member)) newer

/-! ### Runs of tests -/

/-- The table as it is with every stamp written over. -/
def unstamped (table : LocationTable) (s : Stamp) : LocationTable :=
  ⟨{ table.store with items := table.entries.map (·.restamp s) }⟩

theorem Probed.unstamped {before after : LocationTable} {probe : Probe} {answer : Freshness}
    (probed : before.Probed probe answer after) (s : Stamp) :
    after.unstamped s = before.unstamped s := by
  cases probed with
  | stranger | duplicate => rfl
  | @fresh earlier later entry split own first newer =>
    unfold LocationTable.unstamped
    rw [split]
    simp only [entries, List.map_append, List.map_cons, probe.restamp_store]

/-- In every run of tests of both kinds, each test concerns nothing but the entry of the source of its
packet, in which it stores the key of a fresh packet and of no other, and a fresh packet is a duplicate
at once. All entries stay where they are, and are what they were but for their stamps. -/
theorem probes_touch_stamps (table : LocationTable) (list : List Probe) :
    let (history, last) := table.probes list
    (∀ trial ∈ history, trial.Sound) ∧ ∀ s, last.unstamped s = table.unstamped s := by
  induction list generalizing table with
  | nil =>
    refine ⟨fun trial none => ?_, fun _ => rfl⟩
    cases none
  | cons probe rest ih =>
    have sound := table.probe_sound probe
    obtain ⟨others, same⟩ := ih (table.probe probe).2
    refine ⟨fun trial member => ?_, fun s => (same s).trans (sound.probed.unstamped s)⟩
    rcases List.mem_cons.mp member with rfl | member
    · exact sound
    · exact others trial member

end LocationTable
end GeoRouter
