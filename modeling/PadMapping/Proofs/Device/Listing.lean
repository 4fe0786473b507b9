import PadMapping.Proofs.Device.Identity
import PadMapping.Proofs.Keys
import PadMapping.Proofs.Text.Bytes

/-!
# What is listed is what is connected to

Gamepads are looked for in two ways. Listing them gives all that there are, and a source that has no
device of its own connects to one of them. Both search the input directory in the same order, that
of the bytes of the paths, and both pass over what cannot be opened, so they find the same devices:
`listGamepads_eq` and `candidate?_eq` bring both back to the one list `gamepadsIn`.

That every gamepad is listed once needs of the directory that no two nodes have one name, which is
so in every directory and stays so whatever happens (`distinctNames_apply`).
-/

namespace PadMapping.Proofs

/-! ## The order of bytes -/

/-- The bytes of a text. -/
def bytesOf (s : String) : List Nat := s.toUTF8.toList.map UInt8.toNat

/-- The bytes of one text come before those of another where the two first differ. -/
def BytesLess (a b : String) : Prop := List.Lex (· < ·) (bytesOf a) (bytesOf b)

theorem bytesBefore_iff {a b : String} : bytesBefore a b = true ↔ BytesLess a b :=
  List.lex_eq_true_iff_lt

theorem bytesOf_eq (s : String) : bytesOf s = s.toByteArray.data.toList.map UInt8.toNat := by
  rw [bytesOf, toList_toUTF8]

theorem bytesOf_append (a b : String) : bytesOf (a ++ b) = bytesOf a ++ bytesOf b := by
  rw [bytesOf, bytesOf, bytesOf, toUTF8_append, List.map_append]

theorem bytesOf_inj {a b : String} (h : bytesOf a = bytesOf b) : a = b := by
  rw [bytesOf_eq, bytesOf_eq] at h
  have hbytes : a.toByteArray.data.toList = b.toByteArray.data.toList :=
    (List.map_inj_right fun _ _ => UInt8.toNat_inj.mp).mp h
  exact String.toByteArray_inj.mp (ByteArray.ext (Array.toList_inj.mp hbytes))

section

variable {a b c : String}

theorem BytesLess.asymm (h : BytesLess a b) : ¬ BytesLess b a :=
  List.lt_asymm h

theorem not_bytesLess_trans (hab : ¬ BytesLess b a) (hbc : ¬ BytesLess c b) : ¬ BytesLess c a :=
  List.le_trans hab hbc

theorem not_bytesLess_total (a b : String) : ¬ BytesLess b a ∨ ¬ BytesLess a b :=
  List.le_total (bytesOf a) (bytesOf b)

/-- Different texts have different bytes, so one of them comes first. -/
theorem bytesLess_of_not (h : ¬ BytesLess b a) (hne : a ≠ b) : BytesLess a b :=
  (List.le_iff_lt_or_eq.mp h).resolve_right fun heq => hne (bytesOf_inj heq)

/-- What comes before both names does not matter for the order of the paths. -/
theorem BytesLess.nodePath (h : BytesLess a b) :
    BytesLess (InputDirectory.nodePath a) (InputDirectory.nodePath b) := by
  rw [BytesLess, InputDirectory.nodePath, InputDirectory.nodePath, bytesOf_append _ a,
    bytesOf_append _ b]
  exact List.append_left_lt h

end

theorem nodePath_inj {a b : String}
    (h : InputDirectory.nodePath a = InputDirectory.nodePath b) : a = b := by
  have hbytes := congrArg bytesOf h
  rw [InputDirectory.nodePath, InputDirectory.nodePath, bytesOf_append _ a, bytesOf_append _ b]
    at hbytes
  exact bytesOf_inj (List.append_cancel_left hbytes)

/-! ## Nodes and their names -/

/-- No two nodes of the directory have the same name. -/
def DistinctNames (world : InputDirectory) : Prop := (world.nodes.map Prod.fst).Nodup

theorem distinctNames_removeNode {world : InputDirectory} (h : DistinctNames world)
    (name : String) : DistinctNames (world.removeNode name) :=
  h.sublist (List.filter_sublist.map _)

theorem distinctNames_putNode {world : InputDirectory} (h : DistinctNames world) (name : String)
    (node : InputNode) : DistinctNames (world.putNode name node) := by
  have hnew : name ∉ (world.removeNode name).nodes.map Prod.fst := by
    intro hmem
    obtain ⟨p, hp, hname⟩ := List.mem_map.mp hmem
    have hother := (List.mem_filter.mp hp).2
    rw [hname] at hother
    exact absurd hother (by simp)
  exact nodup_concat (distinctNames_removeNode h name) hnew

/-- **Names stay distinct**, whatever happens. -/
theorem distinctNames_apply {world : InputDirectory} (h : DistinctNames world) (c : Change) :
    DistinctNames (c.apply world) := by
  cases c with
  | plug name device => exact distinctNames_putNode h name _
  | put name node => exact distinctNames_putNode h name node
  | alter number how => exact h
  | unplug name =>
      refine distinctNames_removeNode ?_ name
      rw [InputDirectory.updateDevice]
      cases world.numberOf? name with
      | none => exact h
      | some number => exact h

theorem distinctNames_foldl (changes : List Change) (presence : Presence) :
    DistinctNames (changes.foldl Change.apply (.empty presence)) := by
  have hkept : ∀ world, DistinctNames world → DistinctNames (changes.foldl Change.apply world) := by
    induction changes with
    | nil => intro world h; exact h
    | cons c changes ih => intro world h; exact ih _ (distinctNames_apply h c)
  exact hkept _ List.nodup_nil

/-! ## Event nodes -/

theorem mem_eventNames {world : InputDirectory} {name : String} :
    name ∈ world.eventNames
      ↔ "event".toList <+: name.toList ∧ ∃ node, (name, node) ∈ world.nodes := by
  rw [InputDirectory.eventNames, List.mem_mergeSort, List.mem_filter, List.isPrefixOf_iff_prefix,
    List.mem_map]
  constructor
  · intro hx
    obtain ⟨⟨⟨_, node⟩, hmem, rfl⟩, hevent⟩ := hx
    exact ⟨hevent, node, hmem⟩
  · intro hx
    obtain ⟨hevent, node, hmem⟩ := hx
    exact ⟨⟨(name, node), hmem, rfl⟩, hevent⟩

/-- Event nodes are searched in the order of their bytes, each once. -/
theorem eventNames_sorted {world : InputDirectory} (h : DistinctNames world) :
    world.eventNames.Pairwise BytesLess := by
  have hle : ∀ a b : String, (!bytesBefore b a) = true ↔ ¬ BytesLess b a := by
    intro a b
    rw [Bool.not_eq_true', ← Bool.not_eq_true, bytesBefore_iff]
  have hsorted : world.eventNames.Pairwise fun a b => ¬ BytesLess b a := by
    refine (List.pairwise_mergeSort ?_ ?_ _).imp fun hab => (hle _ _).mp hab
    · intro a b c hab hbc
      exact (hle a c).mpr (not_bytesLess_trans ((hle a b).mp hab) ((hle b c).mp hbc))
    · intro a b
      rw [Bool.or_eq_true, hle, hle]
      exact not_bytesLess_total a b
  have hdistinct : world.eventNames.Nodup :=
    (List.mergeSort_perm _ _).nodup_iff.mpr (h.sublist List.filter_sublist)
  exact (hsorted.and hdistinct).imp fun hab => bytesLess_of_not hab.1 hab.2

/-! ## Gamepads -/

/-- The gamepads among the event nodes that can be opened, in the order of their names. -/
def gamepadsIn (world : InputDirectory) : List (String × Nat × InputDevice) :=
  (world.eventNames.filterMap fun name =>
    (world.open? name).map fun (number, d) => (name, number, d)).filter fun (_, _, d) => d.isGamepad

/-- The entry of a gamepad in the list. -/
def infoOf : String × Nat × InputDevice → GamepadInfo
  | (name, _, d) => ⟨InputDirectory.nodePath name, DeviceId.format d.name? d.vendor d.product⟩

theorem listGamepads_eq (world : InputDirectory) :
    world.listGamepads = match world.presence with
      | .missing => .error .missing
      | .file => .error (.unreadable .notDirectory)
      | .directory => .ok ((gamepadsIn world).map infoOf) := by
  rw [InputDirectory.listGamepads, InputDirectory.scan]
  cases world.presence <;> rfl

theorem candidate?_eq {g : Gamepad} (hauto : g.path = none) (world : InputDirectory) :
    g.candidate? world = match world.presence with
      | .missing | .file => none
      | .directory => (gamepadsIn world).head?.map fun (name, number, d) =>
          (InputDirectory.nodePath name, number, d) := by
  rw [Gamepad.candidate?, hauto, InputDirectory.scan]
  cases world.presence with
  | missing | file => rfl
  | directory =>
      rw [gamepadsIn, List.head?_filter]
      show (List.find? _ _).bind _ = _
      cases List.find? _ _ <;> rfl

/-- A node of this name is an event node, can be opened, and is the device with this number, which
has one of the two keys of gamepads. -/
structure GamepadNode (world : InputDirectory) (name : String) (number : Nat) (d : InputDevice) :
    Prop where
  event : "event".toList <+: name.toList
  node : (name, InputNode.device number) ∈ world.nodes
  device : world.device? number = some d
  opens : d.refusals.gone = false
  keys : southButton ∈ d.keys ∨ triggerButton ∈ d.keys

theorem numberOf?_eq_some_iff {world : InputDirectory} (h : DistinctNames world) {name : String}
    {number : Nat} :
    world.numberOf? name = some number ↔ (name, InputNode.device number) ∈ world.nodes := by
  rw [← lookup_eq_some_iff_mem h, InputDirectory.numberOf?]
  cases world.nodes.lookup name with
  | none => simp
  | some node => cases node <;> simp

theorem open?_eq_some_iff {world : InputDirectory} (h : DistinctNames world) {name : String}
    {number : Nat} {d : InputDevice} :
    world.open? name = some (number, d)
      ↔ (name, InputNode.device number) ∈ world.nodes ∧ world.device? number = some d
        ∧ d.refusals.gone = false := by
  rw [← numberOf?_eq_some_iff h, InputDirectory.open?]
  constructor
  · intro hopen
    obtain ⟨n, hn, hopen⟩ := Option.bind_eq_some_iff.mp hopen
    obtain ⟨d', hd, hopen⟩ := Option.bind_eq_some_iff.mp hopen
    split at hopen
    · exact absurd hopen (by simp)
    · rename_i hgone
      injection hopen with hopen
      injection hopen with hnumber hdevice
      subst hnumber; subst hdevice
      exact ⟨hn, hd, Bool.not_eq_true _ ▸ hgone⟩
  · intro hx
    obtain ⟨hnumber, hdevice, hgone⟩ := hx
    simp [hnumber, hdevice, hgone]

theorem mem_gamepadsIn {world : InputDirectory} (h : DistinctNames world) {name : String}
    {number : Nat} {d : InputDevice} :
    (name, number, d) ∈ gamepadsIn world ↔ GamepadNode world name number d := by
  rw [gamepadsIn, List.mem_filter, List.mem_filterMap]
  constructor
  · intro hx
    obtain ⟨⟨name', hname, hfound⟩, hkeys⟩ := hx
    obtain ⟨⟨n, d'⟩, hopen, heq⟩ := Option.map_eq_some_iff.mp hfound
    injection heq with hn heq
    injection heq with hnumber hdevice
    subst hn; subst hnumber; subst hdevice
    obtain ⟨hnode, hdevice, hgone⟩ := (open?_eq_some_iff h).mp hopen
    exact ⟨(mem_eventNames.mp hname).1, hnode, hdevice, hgone,
      by simpa [InputDevice.isGamepad] using hkeys⟩
  · intro hx
    refine ⟨⟨name, mem_eventNames.mpr ⟨hx.event, _, hx.node⟩, ?_⟩, ?_⟩
    · rw [(open?_eq_some_iff h).mpr ⟨hx.node, hx.device, hx.opens⟩]
      rfl
    · simpa [InputDevice.isGamepad] using hx.keys

/-- A node has one device. -/
theorem GamepadNode.unique {world : InputDirectory} (h : DistinctNames world) {name : String}
    {number number' : Nat} {d d' : InputDevice} (hnode : GamepadNode world name number d)
    (hnode' : GamepadNode world name number' d') : number = number' ∧ d = d' := by
  have hopen := (open?_eq_some_iff h).mpr ⟨hnode.node, hnode.device, hnode.opens⟩
  rw [(open?_eq_some_iff h).mpr ⟨hnode'.node, hnode'.device, hnode'.opens⟩] at hopen
  injection hopen with hopen
  injection hopen with hnumber hdevice
  exact ⟨hnumber.symm, hdevice.symm⟩

/-- Gamepads are in the order of the bytes of their paths, each once. -/
theorem gamepadsIn_sorted {world : InputDirectory} (h : DistinctNames world) :
    ((gamepadsIn world).map infoOf).Pairwise fun a b => BytesLess a.path b.path := by
  rw [List.pairwise_map]
  refine List.Pairwise.filter _ (List.Pairwise.filterMap _ ?_ (eventNames_sorted h))
  intro name name' hlt entry hentry entry' hentry'
  obtain ⟨_, _, rfl⟩ := Option.map_eq_some_iff.mp hentry
  obtain ⟨_, _, rfl⟩ := Option.map_eq_some_iff.mp hentry'
  exact hlt.nodePath

/-! ## Connecting -/

/-- A connection is made exactly if the axes can be read. -/
theorem connect?_isSome_iff {path : String} {number session : Nat} {d : InputDevice} :
    (Connection.connect? path number d session).isSome = true ↔ d.readAxes ≠ none := by
  rw [Connection.connect?]
  cases d.readAxes <;> simp

theorem path_of_connect? {path : String} {number session : Nat} {d : InputDevice} {c : Connection}
    (h : Connection.connect? path number d session = some c) : c.path = path := by
  rw [Connection.connect?] at h
  obtain ⟨_, _, h⟩ := Option.bind_eq_some_iff.mp h
  injection h with h
  rw [← h]

/-- A source that is to look for a device makes the connection to its candidate, if there is one
and its axes can be read. -/
theorem opened?_of_due {p : Poll} (hnone : p.before.connection = none)
    (hdue : p.before.isScanDue p.now = true) :
    p.opened? = (p.before.candidate? p.world).bind fun found =>
      Connection.connect? found.1 found.2.1 found.2.2 (p.before.session + 1) := by
  have hwants : p.before.wantsToConnect p.now = true := by
    rw [Gamepad.wantsToConnect, hnone, hdue]
    rfl
  rw [Poll.opened?, if_pos hwants, Poll.connection?, Poll.attached, if_pos hwants, connect_eq]
  cases (p.before.candidate? p.world).bind fun found =>
      Connection.connect? found.1 found.2.1 found.2.2 (p.before.session + 1) with
  | none => exact hnone
  | some c => rfl

/-- A source without a device of its own connects to the first of the gamepads. -/
theorem opened?_eq_some_iff {p : Poll} (hauto : p.before.path = none)
    (hnone : p.before.connection = none) (hdue : p.before.isScanDue p.now = true)
    {c : Connection} :
    p.opened? = some c ↔ p.world.presence = .directory ∧ ∃ name number d rest,
      gamepadsIn p.world = (name, number, d) :: rest
        ∧ Connection.connect? (InputDirectory.nodePath name) number d (p.before.session + 1)
          = some c := by
  rw [opened?_of_due hnone hdue, candidate?_eq hauto]
  cases p.world.presence with
  | missing | file => simp
  | directory =>
      cases gamepadsIn p.world with
      | nil => simp
      | cons entry rest =>
          constructor
          · intro hconnect
            exact ⟨rfl, entry.1, entry.2.1, entry.2.2, rest, rfl, hconnect⟩
          · intro hx
            obtain ⟨_, name, number, d, _, hfirst, hconnect⟩ := hx
            injection hfirst with hentry _
            subst hentry
            exact hconnect

theorem listGamepads_eq_ok_iff {world : InputDirectory} {found : List GamepadInfo} :
    world.listGamepads = .ok found
      ↔ world.presence = .directory ∧ found = (gamepadsIn world).map infoOf := by
  rw [listGamepads_eq]
  cases world.presence <;> simp [eq_comm]

/-- What a source connects to stands first in the list. -/
theorem listed_of_opened {p : Poll} (hnames : DistinctNames p.world)
    (hauto : p.before.path = none) (hnone : p.before.connection = none)
    (hdue : p.before.isScanDue p.now = true) {c : Connection} (hc : p.opened? = some c) :
    ∃ name number d rest, p.world.listGamepads = .ok (⟨c.path, c.identity.id⟩ :: rest)
      ∧ c.path = InputDirectory.nodePath name ∧ GamepadNode p.world name number d
      ∧ d.readAxes ≠ none := by
  obtain ⟨hthere, name, number, d, rest, hfirst, hconnect⟩ :=
    (opened?_eq_some_iff hauto hnone hdue).mp hc
  have hpath := path_of_connect? hconnect
  have hid : c.identity.id = d.id := by rw [(connect?_eq hconnect).2]
  refine ⟨name, number, d, rest.map infoOf, ?_, hpath, ?_, ?_⟩
  · rw [hpath, hid]
    exact listGamepads_eq_ok_iff.mpr ⟨hthere, by rw [hfirst]; rfl⟩
  · exact (mem_gamepadsIn hnames).mp (by rw [hfirst]; exact List.mem_cons_self)
  · exact connect?_isSome_iff.mp (Option.isSome_of_mem hconnect)

/-- What stands first in the list is connected to, if its axes can be read. -/
theorem opened_of_listed {p : Poll} (hnames : DistinctNames p.world)
    (hauto : p.before.path = none) (hnone : p.before.connection = none)
    (hdue : p.before.isScanDue p.now = true) {first : GamepadInfo} {rest : List GamepadInfo}
    {name : String} {number : Nat} {d : InputDevice}
    (hlist : p.world.listGamepads = .ok (first :: rest))
    (hpath : first.path = InputDirectory.nodePath name)
    (hnode : GamepadNode p.world name number d) (haxes : d.readAxes ≠ none) :
    ∃ c, p.opened? = some c := by
  obtain ⟨hthere, hfound⟩ := listGamepads_eq_ok_iff.mp hlist
  cases hgamepads : gamepadsIn p.world with
  | nil => rw [hgamepads] at hfound; exact absurd hfound (by simp)
  | cons entry more =>
      obtain ⟨name', number', d'⟩ := entry
      rw [hgamepads] at hfound
      injection hfound with hfirst _
      -- the path names the node, and the node has one device
      have hname : name = name' :=
        nodePath_inj (hpath.symm.trans (congrArg GamepadInfo.path hfirst))
      have hmem : (name', number', d') ∈ gamepadsIn p.world := by
        rw [hgamepads]
        exact List.mem_cons_self
      obtain ⟨hnumber, hdevice⟩ := hnode.unique hnames (hname ▸ (mem_gamepadsIn hnames).mp hmem)
      subst hname; subst hnumber; subst hdevice
      obtain ⟨c, hc⟩ := Option.isSome_iff_exists.mp (connect?_isSome_iff.mpr haxes)
      exact ⟨c, (opened?_eq_some_iff hauto hnone hdue).mpr
        ⟨hthere, name, number, d, more, hgamepads, hc⟩⟩

/--
**What is listed is what is connected to.**

Listing the gamepads fails exactly if the input directory is missing or cannot be read. Otherwise
it gives the event nodes that can be opened and have one of the two keys of gamepads, and nothing
else, each under its path and with the id of its device, in strictly ascending order of the bytes of
the paths.

A poll of a source without a device of its own and without a connection, to which the next attempt
is due, connects exactly if this list is not empty and the axes of its first entry can be read. It
then connects to the path of that entry, and has the id of that entry. That a poll connects shows in
the number of sessions of the source afterwards. The reading of such a poll is what can be read
through the connection, which the source keeps if that is something.
-/
theorem opened_iff_listed {world : InputDirectory} (hnames : DistinctNames world) :
    ((∃ fault, world.listGamepads = .error fault) ↔ world.presence ≠ .directory)
      ∧ (∀ found, world.listGamepads = .ok found →
        found.Pairwise (fun a b => BytesLess a.path b.path)
          ∧ ∀ info, info ∈ found ↔ ∃ name number d, GamepadNode world name number d
            ∧ info = ⟨InputDirectory.nodePath name, DeviceId.format d.name? d.vendor d.product⟩)
      ∧ ∀ p : Poll, p.world = world → p.before.path = none → p.before.connection = none →
        p.before.isScanDue p.now = true →
        ((∃ c, p.opened? = some c) ↔ ∃ first rest name number d,
            world.listGamepads = .ok (first :: rest) ∧ first.path = InputDirectory.nodePath name
              ∧ GamepadNode world name number d ∧ d.readAxes ≠ none)
          ∧ (p.after.session = p.before.session + 1 ↔ ∃ c, p.opened? = some c)
          ∧ ∀ c, p.opened? = some c →
            (∃ rest, world.listGamepads = .ok (⟨c.path, c.identity.id⟩ :: rest))
              ∧ p.reading = c.read? world
              ∧ p.after.connection = p.reading.map fun _ => c := by
  refine ⟨?_, ?_, ?_⟩
  · rw [listGamepads_eq]
    cases world.presence <;> simp
  · intro found hfound
    obtain ⟨_, rfl⟩ := listGamepads_eq_ok_iff.mp hfound
    refine ⟨gamepadsIn_sorted hnames, ?_⟩
    intro info
    rw [List.mem_map]
    constructor
    · intro hx
      obtain ⟨⟨name, number, d⟩, hmem, rfl⟩ := hx
      exact ⟨name, number, d, (mem_gamepadsIn hnames).mp hmem, rfl⟩
    · intro hx
      obtain ⟨name, number, d, hnode, rfl⟩ := hx
      exact ⟨(name, number, d), (mem_gamepadsIn hnames).mpr hnode, rfl⟩
  · intro p hworld hauto hnone hdue
    subst hworld
    refine ⟨⟨?_, ?_⟩, p.session_after_eq_succ_iff, ?_⟩
    · intro hx
      obtain ⟨c, hc⟩ := hx
      obtain ⟨name, number, d, rest, hlist, hpath, hnode, haxes⟩ :=
        listed_of_opened hnames hauto hnone hdue hc
      exact ⟨_, rest, name, number, d, hlist, hpath, hnode, haxes⟩
    · intro hx
      obtain ⟨first, rest, name, number, d, hlist, hpath, hnode, haxes⟩ := hx
      exact opened_of_listed hnames hauto hnone hdue hlist hpath hnode haxes
    · intro c hc
      obtain ⟨_, _, _, rest, hlist, _⟩ := listed_of_opened hnames hauto hnone hdue hc
      exact ⟨⟨rest, hlist⟩, Poll.after_of_opened? hc⟩

/-- A directory with two gamepads, a file and another directory. The second gamepad refuses to tell
which keys are held. -/
def crowded : InputDirectory :=
  [Change.put "event0" .directory, .put "js0" .file, .plug "event2" singleButtonPad,
    .plug "event10" singleButtonPad, .alter 1 (.refuse ⟨false, false, true⟩)].foldl Change.apply
      (.empty .directory)

/-- The tenth event node is listed before the second. It is also connected to before the second.
Its keys cannot be read, so the connection is given up at once, but it has taken a number. -/
theorem opened_of_crowded :
    let p : Poll := ⟨crowded, 0, .start none 1000⟩
    DistinctNames crowded ∧ p.before.path = none ∧ p.before.connection = none
      ∧ p.before.isScanDue p.now = true
      ∧ ∃ c info, p.opened? = some c ∧ crowded.listGamepads = .ok [⟨c.path, c.identity.id⟩, info]
        ∧ c.path = "/dev/input/event10" ∧ info.path = "/dev/input/event2"
        ∧ p.after.session = 1 ∧ p.reading = none ∧ p.after.connection = none := by
  intro p
  have hnames : DistinctNames crowded := distinctNames_foldl _ .directory
  have hevents : crowded.eventNames = ["event0", "event10", "event2"] := by
    refine List.Perm.eq_of_pairwise (fun _ _ _ _ hab hba => absurd hba hab.asymm)
      (eventNames_sorted hnames) ?_ ((List.mergeSort_perm _ _).trans (by decide +kernel))
    simp only [List.pairwise_cons, List.forall_mem_cons, List.not_mem_nil, false_imp_iff,
      implies_true, List.Pairwise.nil, and_true, ← bytesBefore_iff]
    decide +kernel
  have hlist : crowded.listGamepads = .ok
      [⟨"/dev/input/event10", singleButtonPad.id⟩, ⟨"/dev/input/event2", singleButtonPad.id⟩] := by
    rw [listGamepads_eq, gamepadsIn, hevents]
    rfl
  have hnode : GamepadNode crowded "event10" 1
      { singleButtonPad with refusals := ⟨false, false, true⟩ } :=
    ⟨by decide, by decide, rfl, rfl, Or.inl (by decide)⟩
  obtain ⟨hopened, hsession, hfirst⟩ := (opened_iff_listed hnames).2.2 p rfl rfl rfl rfl
  obtain ⟨c, hc⟩ := hopened.mpr ⟨_, _, "event10", 1, _, hlist, rfl, hnode, by decide⟩
  obtain ⟨⟨rest, hrest⟩, hread, hkept⟩ := hfirst c hc
  rw [hlist] at hrest
  injection hrest with hrest
  injection hrest with hentry hrest
  injection hentry with hpath hid
  have hsilent : c.read? crowded = none := by
    obtain ⟨_, name, number, d, _, hgamepads, hconnect⟩ :=
      (opened?_eq_some_iff (p := p) rfl rfl rfl).mp hc
    rw [show p.world = crowded from rfl, gamepadsIn, hevents] at hgamepads
    injection hgamepads with hentry
    injection hentry with _ hentry
    injection hentry with hnumber
    have hdevice : crowded.device? c.device
        = some { singleButtonPad with refusals := ⟨false, false, true⟩ } := by
      rw [(connect?_eq hconnect).1, ← hnumber]
      rfl
    exact (read?_eq_none_iff hdevice).mpr (Or.inl rfl)
  have hreading : p.reading = none := hread.trans hsilent
  refine ⟨hnames, rfl, rfl, rfl, c, ⟨"/dev/input/event2", singleButtonPad.id⟩, hc, ?_,
    hpath.symm, rfl, hsession.mpr ⟨c, hc⟩, hreading, ?_⟩
  · rw [hlist, hpath, hid]
  · rw [hkept, hreading]
    rfl

end PadMapping.Proofs
