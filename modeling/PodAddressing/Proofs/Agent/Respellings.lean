import Mathlib.Data.List.Perm.Basic
import PodAddressing.Proofs.Agent.Resyncs
import PodAddressing.Proofs.Resource.Addresses
/-!
Entries that are written anew. How the addresses of a peer and the block of a subnet are spelled makes no change, since
they are kept as canonical texts. The gateway of a subnet is kept as it is written, so another spelling of it is another
gateway.
-/

namespace PodAddressing

variable {fields others : List (String × Json)}

namespace RemotePeer
variable {old new : RemotePeer} {r r' : Reach}

theorem changed_iff_reach (read : ofJson (.object fields) = .ok old) (read' : ofJson (.object others) = .ok new)
    (reaches : Reaches fields r) (reaches' : Reaches others r') :
    old.changed new = true ↔ r.vtep ≠ r'.vtep ∨ Text.lower r.mac ≠ Text.lower r'.mac ∨ r.nodeLocal ≠ r'.nodeLocal ∨
      r.endpoints ≠ r'.endpoints := by
  obtain ⟨s, found, ip, mac, locals, ends⟩ := (ofJson_eq_ok_iff.mp read).reaches
  obtain ⟨s', found', ip', mac', locals', ends'⟩ := (ofJson_eq_ok_iff.mp read').reaches
  cases found.unique reaches
  cases found'.unique reaches'
  have vtep : old.vtepIP = new.vtepIP ↔ r.vtep = r'.vtep := by
    rw [← ip, ← ip']
    exact reaches.proper.text_inj reaches'.proper
  have nodeLocal : old.nodeLocalIPs = new.nodeLocalIPs ↔ r.nodeLocal = r'.nodeLocal := by
    obtain ⟨_, _, lists⟩ := reaches.nodeLocal
    obtain ⟨_, _, lists'⟩ := reaches'.nodeLocal
    rw [← locals, ← locals']
    exact AddressList.texts_inj lists.proper lists'.proper
  have endpoints : old.endpointIPs = new.endpointIPs ↔ r.endpoints = r'.endpoints := by
    rw [← ends, ← ends']
    exact AddressList.texts_inj reaches.endpoints.proper reaches'.endpoints.proper
  rw [changed_iff]
  simp only [Snapshot.forwarding?, ne_eq, Option.some.injEq, Forwarding.peer.injEq, vtep, ← mac, ← mac', nodeLocal,
    endpoints, not_and_or]

/-- A list of texts is read just if each text denotes an address, and what is read is the same for texts of the same
addresses, whether they are listed or joined, and for what was read already. So it makes no change of a peer if its
addresses or the case of its hardware address are written in another way, and another order of its addresses makes
one. -/
theorem changed_by_addresses_only :
    (∀ items : List String, (∃ found, AddressList.ofJson (.list (items.map .text)) = .ok found) ↔
      ∀ item ∈ items, ∃ a, Address.parse? (Text.trimmed item) = some a) ∧
    (∀ (items items' found found' : List String), AddressList.ofJson (.list (items.map .text)) = .ok found →
      AddressList.ofJson (.list (items'.map .text)) = .ok found' →
        (found = found' ↔ List.Forall₂ AddressList.SameAddress items items')) ∧
    (∀ items found : List String, AddressList.ofJson (.list (items.map .text)) = .ok found →
      (∀ item ∈ items, ',' ∉ item.toList) →
        AddressList.ofJson (.text (String.intercalate "," items)) = .ok found) ∧
    (∀ (v : Json) (found : List String), AddressList.ofJson v = .ok found →
      AddressList.ofJson (.list (found.map .text)) = .ok found) ∧
    (∀ (entry : Json) (p : RemotePeer), ofJson entry = .ok p →
      ∃ fields, entry = .object fields ∧ ∃! r, Reaches fields r) ∧
    ∀ (fields others : List (String × Json)) (old new : RemotePeer) (r r' : Reach),
      ofJson (.object fields) = .ok old → ofJson (.object others) = .ok new →
      Reaches fields r → Reaches others r' →
        (old.changed new = true ↔ r.vtep ≠ r'.vtep ∨ Text.lower r.mac ≠ Text.lower r'.mac ∨
          r.nodeLocal ≠ r'.nodeLocal ∨ r.endpoints ≠ r'.endpoints) ∧
        (r.vtep = r'.vtep → Text.SameButCase r.mac r'.mac → r.nodeLocal = r'.nodeLocal → r.endpoints = r'.endpoints →
          old.changed new = false) ∧
        (r.nodeLocal.Perm r'.nodeLocal ∧ r.nodeLocal ≠ r'.nodeLocal ∨
          r.endpoints.Perm r'.endpoints ∧ r.endpoints ≠ r'.endpoints → old.changed new = true) := by
  refine ⟨fun _ => AddressList.exists_given_iff, fun _ _ _ _ => AddressList.given_eq_iff,
    fun _ _ => AddressList.ofJson_joined, fun _ _ => AddressList.ofJson_found, ?entry, ?entries⟩
  case entry =>
    intro entry p read
    obtain ⟨fields, rfl⟩ := object_of_ofJson read
    obtain ⟨r, reaches, _⟩ := (ofJson_eq_ok_iff.mp read).reaches
    exact ⟨fields, rfl, r, reaches, fun _ other => other.unique reaches⟩
  case entries =>
    intro fields others old new r r' read read' reaches reaches'
    have changes := changed_iff_reach read read' reaches reaches'
    refine ⟨changes, fun vtep mac nodeLocal endpoints => ?_, fun reordered => ?_⟩
    · rw [← Bool.not_eq_true, changes]
      simp [vtep, Text.lower_eq_of_sameButCase mac, nodeLocal, endpoints]
    · rw [changes]
      rcases reordered with ⟨_, differs⟩ | ⟨_, differs⟩
      · exact .inr (.inr (.inl differs))
      · exact .inr (.inr (.inr differs))

def eastFields : List (String × Json) :=
  [("name", .text "east"), ("vtepIP", .text "2001:DB8::7"), ("vtepMAC", .text "02:00:00:00:00:AB"),
    ("nodeLocalVxlanIPs", .list [.text " 10.0.0.1", .text "2001:db8:0::2"]), ("endpointIPs", .text "::1,::2")]

def eastRespelled (endpoints : String) : List (String × Json) :=
  [("name", .text "east"), ("vtepIP", .text "2001:db8:0:0::7"), ("vtepMAC", .text "02:00:00:00:00:ab"),
    ("annotations", .object [("networking.podnet.io/node-local-vxlan-ip-list", .text "10.0.0.1, 2001:DB8::2")]),
    ("endpointIPs", .text endpoints)]

def east (endpoints : List String) : RemotePeer :=
  ⟨"east", "", "east", "2001:db8::7", "02:00:00:00:00:ab", ["10.0.0.1", "2001:db8::2"], endpoints⟩

/-- A list becomes an annotation, letters become small, groups are left out: nothing of it is a change. -/
theorem respelled_east_unchanged :
    ofJson (.object eastFields) = .ok (east ["::1", "::2"]) ∧
      ofJson (.object (eastRespelled "0::1,0::2")) = .ok (east ["::1", "::2"]) ∧
      ofJson (.object (eastRespelled "0::2,0::1")) = .ok (east ["::2", "::1"]) ∧
      (east ["::1", "::2"]).changed (east ["::1", "::2"]) = false ∧
      (east ["::1", "::2"]).changed (east ["::2", "::1"]) = true := by
  have first : ofJson (.object eastFields) = .ok (east ["::1", "::2"]) := by decide +kernel
  have respelled : ofJson (.object (eastRespelled "0::1,0::2")) = .ok (east ["::1", "::2"]) := by decide +kernel
  have reordered : ofJson (.object (eastRespelled "0::2,0::1")) = .ok (east ["::2", "::1"]) := by decide +kernel
  let one : Address := ⟨.v6, 1, none⟩
  let two : Address := ⟨.v6, 2, none⟩
  let nodeLocal : List Address := [⟨.v4, 0x0a000001, none⟩, ⟨.v6, 0x20010db8000000000000000000000002, none⟩]
  let vtep : Address := ⟨.v6, 0x20010db8000000000000000000000007, none⟩
  have reach : Reaches eastFields ⟨vtep, "02:00:00:00:00:AB", nodeLocal, [one, two]⟩ :=
    ⟨⟨_, rfl, by decide +kernel⟩, rfl, ⟨_, rfl, by decide +kernel⟩, by decide +kernel⟩
  have again : Reaches (eastRespelled "0::1,0::2") ⟨vtep, "02:00:00:00:00:ab", nodeLocal, [one, two]⟩ :=
    ⟨⟨_, rfl, by decide +kernel⟩, rfl, ⟨_, rfl, by decide +kernel⟩, by decide +kernel⟩
  have other : Reaches (eastRespelled "0::2,0::1") ⟨vtep, "02:00:00:00:00:ab", nodeLocal, [two, one]⟩ :=
    ⟨⟨_, rfl, by decide +kernel⟩, rfl, ⟨_, rfl, by decide +kernel⟩, by decide +kernel⟩
  obtain ⟨_, _, _, _, _, entries⟩ := changed_by_addresses_only
  obtain ⟨_, unchanged, _⟩ := entries _ _ _ _ _ _ first respelled reach again
  obtain ⟨_, _, changed⟩ := entries _ _ _ _ _ _ first reordered reach other
  exact ⟨first, respelled, reordered, unchanged rfl (by decide +kernel) rfl rfl,
    changed (.inr ⟨List.Perm.swap _ _ _, by decide⟩)⟩

end RemotePeer

namespace RemoteSubnet
variable {old new : RemoteSubnet} {b b' : Block}

def Covers (fields : List (String × Json)) (b : Block) : Prop :=
  ∃ v, Json.lookup? "cidr" fields = some v ∧ Block.ofJson v = .ok b

def gatewayOf (fields : List (String × Json)) : Option String :=
  ((Json.lookup? "gateway" fields).filter Json.holds).map Json.describe

theorem Covers.unique (left : Covers fields b) (right : Covers fields b') : b = b' := by
  obtain ⟨v, given, read⟩ := left
  obtain ⟨v', given', read'⟩ := right
  rw [given] at given'
  cases given'
  exact Except.ok.inj (read.symm.trans read')

theorem exists_covers {entry : Json} {s : RemoteSubnet} (read : ofJson entry = .ok s) :
    ∃ fields b, entry = .object fields ∧ Covers fields b := by
  cases entry with
  | object fields =>
      obtain ⟨v, given, b, blocked, _⟩ := (ofJson_eq_ok_iff.mp read).cidr
      exact ⟨fields, b, rfl, v, given, blocked⟩
  | _ => cases read

theorem Covers.proper (covers : Covers fields b) : b.Proper := by
  obtain ⟨_, _, read⟩ := covers
  exact Block.proper_of_ofJson read

theorem changed_eq_false_iff (read : ofJson (.object fields) = .ok old) (read' : ofJson (.object others) = .ok new)
    (covers : Covers fields b) (covers' : Covers others b') :
    old.changed new = false ↔ old.cluster = new.cluster ∧ old.networkType = new.networkType ∧
      (∀ a, b.Holds a ↔ b'.Holds a) ∧ b.base.scope = b'.base.scope ∧ gatewayOf fields = gatewayOf others := by
  have spells := ofJson_eq_ok_iff.mp read
  have spells' := ofJson_eq_ok_iff.mp read'
  have cidr : old.cidr = new.cidr ↔ (∀ a, b.Holds a ↔ b'.Holds a) ∧ b.base.scope = b'.base.scope := by
    obtain ⟨v, given, block, blocked, text⟩ := spells.cidr
    obtain ⟨v', given', block', blocked', text'⟩ := spells'.cidr
    cases Covers.unique ⟨v, given, blocked⟩ covers
    cases Covers.unique ⟨v', given', blocked'⟩ covers'
    rw [← text, ← text', covers.proper.text_inj covers'.proper]
    exact covers.proper.eq_iff covers'.proper
  have gateway : old.gateway = new.gateway ↔ gatewayOf fields = gatewayOf others := by
    rw [← spells.gateway, ← spells'.gateway]
    rfl
  rw [← Bool.not_eq_true, changed_iff]
  simp only [Snapshot.forwarding?, ne_eq, Option.some.injEq, Forwarding.subnet.injEq, not_not, cidr, gateway]
  constructor
  · rintro ⟨⟨same, scope⟩, written, type, cluster⟩
    exact ⟨cluster, type, same, scope, written⟩
  · rintro ⟨cluster, type, same, scope, written⟩
    exact ⟨⟨same, scope⟩, written, type, cluster⟩

/-- Of two entries of one cluster, network type and network, the handler requests a resync just if their gateways are
written differently. The scope is a part of the network that it takes care of. -/
theorem requested_iff_gateway_rewritten {entry entry' : Json} {old new : RemoteSubnet} (read : ofJson entry = .ok old)
    (read' : ofJson entry' = .ok new) :
    ∃ fields others b b', entry = .object fields ∧ entry' = .object others ∧ Covers fields b ∧ Covers others b' ∧
      (old.changed new = false ↔ old.cluster = new.cluster ∧ old.networkType = new.networkType ∧
        (∀ a, b.Holds a ↔ b'.Holds a) ∧ b.base.scope = b'.base.scope ∧ gatewayOf fields = gatewayOf others) ∧
      (old.cluster = new.cluster → old.networkType = new.networkType → (∀ a, b.Holds a ↔ b'.Holds a) →
        b.base.scope = b'.base.scope → ∀ site : Site,
          Handler.remoteSubnet.handle site (.updated (.remoteSubnet old) (.remoteSubnet new)) =
            (.ok (), if gatewayOf fields = gatewayOf others then site
              else { site with queue := site.queue.add reconcileSubnet })) := by
  obtain ⟨fields, b, rfl, covers⟩ := exists_covers read
  obtain ⟨others, b', rfl, covers'⟩ := exists_covers read'
  have unchanged := changed_eq_false_iff read read' covers covers'
  refine ⟨fields, others, b, b', rfl, rfl, covers, covers', unchanged, fun cluster type same scope site => ?_⟩
  change (Except.ok (), if old.changed new then { site with queue := site.queue.add reconcileSubnet } else site) = _
  by_cases gateway : gatewayOf fields = gatewayOf others
  · rw [if_pos gateway, unchanged.mpr ⟨cluster, type, same, scope, gateway⟩]
    rfl
  · have changed : old.changed new = true := by
      rw [← Bool.not_eq_false, unchanged]
      exact fun ⟨_, _, _, _, same⟩ => gateway same
    rw [if_neg gateway, changed]
    rfl

def westFields (cidr gateway : String) : List (String × Json) :=
  [("name", .text "west"), ("cluster", .text "c1"), ("cidr", .text cidr), ("gateway", .text gateway)]

def west (gateway : String) : RemoteSubnet := ⟨"west", "c1", .overlay, "2001:db8::/64", some gateway⟩

/-- Host bits and the spelling of a block make no change. -/
theorem respelled_west_unchanged :
    ofJson (.object (westFields "2001:DB8::1/64" "2001:db8::1")) = .ok (west "2001:db8::1") ∧
      ofJson (.object (westFields "2001:db8:0:0::/64" "2001:db8::1")) = .ok (west "2001:db8::1") ∧
      (west "2001:db8::1").changed (west "2001:db8::1") = false := by
  have read : ofJson (.object (westFields "2001:DB8::1/64" "2001:db8::1")) = .ok (west "2001:db8::1") := by
    decide +kernel
  have again : ofJson (.object (westFields "2001:db8:0:0::/64" "2001:db8::1")) = .ok (west "2001:db8::1") := by
    decide +kernel
  let block : Block := ⟨⟨.v6, 0x20010db8000000000000000000000000, none⟩, 64⟩
  have covers : Covers (westFields "2001:DB8::1/64" "2001:db8::1") block := ⟨_, rfl, by decide +kernel⟩
  have covers' : Covers (westFields "2001:db8:0:0::/64" "2001:db8::1") block := ⟨_, rfl, by decide +kernel⟩
  obtain ⟨_, _, b, b', ⟨⟩, ⟨⟩, found, found', unchanged, _⟩ := requested_iff_gateway_rewritten read again
  cases found.unique covers
  cases found'.unique covers'
  exact ⟨read, again, unchanged.mpr ⟨rfl, rfl, fun _ => Iff.rfl, rfl, rfl⟩⟩

/-- Two spellings of one gateway are a change, and a resync is requested. -/
theorem respelled_gateway_requested :
    ofJson (.object (westFields "2001:db8::/64" "2001:DB8::1")) = .ok (west "2001:DB8::1") ∧
      ofJson (.object (westFields "2001:db8::/64" "2001:db8::1")) = .ok (west "2001:db8::1") ∧
      Address.parse? "2001:DB8::1" = Address.parse? "2001:db8::1" ∧ (Address.parse? "2001:db8::1").isSome = true ∧
      (west "2001:DB8::1").changed (west "2001:db8::1") = true ∧
      ∀ site : Site, (Handler.remoteSubnet.handle site
        (.updated (.remoteSubnet (west "2001:DB8::1")) (.remoteSubnet (west "2001:db8::1")))).2.queue =
          site.queue.add reconcileSubnet := by
  have changed : (west "2001:DB8::1").changed (west "2001:db8::1") = true := by decide +kernel
  refine ⟨by decide +kernel, by decide +kernel, by decide +kernel, by decide +kernel, changed, fun site => ?_⟩
  change (if (west "2001:DB8::1").changed (west "2001:db8::1") then
    { site with queue := site.queue.add reconcileSubnet } else site).queue = _
  rw [if_pos changed]

end RemoteSubnet

end PodAddressing
