import Mathlib.Tactic.MkIffOfInductiveProp
import PodAddressing.Proofs.Json.Field
import PodAddressing.Resource
/-!
What the fields of an entry spell. A resource is read from an entry just if each of its members is what the fields that
belong to it say, whatever else the entry has.
-/

namespace PodAddressing

variable {fields : List (String × Json)}

def familiesOf (v : Json) : Except Fault (List Family) :=
  if v.holds then do (← v.items).mapM Family.ofJson else .ok [.v4]

theorem familiesOf_bind {β : Type} {next : List Family → Except Fault β} (v : Json) :
    (if v.holds then do next (← (← v.items).mapM Family.ofJson) else do next (← pure [.v4])) =
      familiesOf v >>= next := by
  unfold familiesOf
  split
  · rw [bind_assoc]
  · rfl

namespace Pod

@[mk_iff] structure Spells (fields : List (String × Json)) (p : Pod) : Prop where
  ns : (Json.text? "namespace" fields).getD "default" = p.ns
  name : Json.text? "name" fields = some p.name
  uid : Json.text? "uid" fields = some p.uid
  nodeName : (Json.text? "nodeName" fields).getD "" = p.nodeName
  owner : ownerOf ((Json.lookup? "owner" fields).getD .null) = .ok p.owner
  networkType :
    NetworkType.ofText ((Json.text? "networkType" fields).getD NetworkType.underlay.name) = .ok p.networkType
  families : familiesOf ((Json.lookup? "families" fields).getD .null) = .ok p.families
  subnets : subnetsOf ((Json.lookup? "subnets" fields).getD .null) = .ok p.subnets

theorem ofJson_eq_ok_iff {p : Pod} : ofJson (.object fields) = .ok p ↔ Spells fields p := by
  unfold ofJson
  simp only [familiesOf_bind, bind_eq_ok_iff, pure_eq_ok_iff, Json.fieldOr_object, Json.textFieldOr_object,
    Json.textField_eq_ok_iff_text?, Except.ok.injEq, exists_eq_left']
  constructor
  · rintro ⟨name, named, uid, given, owner, owned, type, typed, families, listed, subnets, limited, rfl⟩
    exact ⟨rfl, named, given, rfl, owned, typed, listed, limited⟩
  · obtain ⟨ns, name, uid, nodeName, owner, type, families, subnets⟩ := p
    rintro ⟨rfl, named, given, rfl, owned, typed, listed, limited⟩
    exact ⟨_, named, _, given, _, owned, _, typed, _, listed, _, limited, rfl⟩

theorem exists_ofJson_iff : (∃ p, ofJson (.object fields) = .ok p) ↔
    (∃ name, Json.text? "name" fields = some name) ∧ (∃ uid, Json.text? "uid" fields = some uid) ∧
      (∃ owner, ownerOf ((Json.lookup? "owner" fields).getD .null) = .ok owner) ∧
      (∃ type, NetworkType.ofText ((Json.text? "networkType" fields).getD NetworkType.underlay.name) = .ok type) ∧
      (∃ families, familiesOf ((Json.lookup? "families" fields).getD .null) = .ok families) ∧
      ∃ subnets, subnetsOf ((Json.lookup? "subnets" fields).getD .null) = .ok subnets := by
  constructor
  · rintro ⟨p, read⟩
    have s := ofJson_eq_ok_iff.mp read
    exact ⟨⟨_, s.name⟩, ⟨_, s.uid⟩, ⟨_, s.owner⟩, ⟨_, s.networkType⟩, ⟨_, s.families⟩, ⟨_, s.subnets⟩⟩
  · rintro ⟨⟨name, named⟩, ⟨uid, given⟩, ⟨owner, owned⟩, ⟨type, typed⟩, ⟨families, listed⟩, subnets, limited⟩
    exact ⟨⟨_, name, uid, _, owner, type, families, subnets⟩,
      ofJson_eq_ok_iff.mpr ⟨rfl, named, given, rfl, owned, typed, listed, limited⟩⟩

theorem exists_ownerOf_iff : (∃ owner, ownerOf (.object fields) = .ok owner) ↔ ((Json.object fields).holds = true →
    (∃ kind, Json.text? "kind" fields = some kind) ∧ ∃ name, Json.text? "name" fields = some name) := by
  unfold ownerOf
  split
  case isTrue holds =>
    simp only [bind_eq_ok_iff, pure_eq_ok_iff, Json.textFieldOr_object, Json.textField_eq_ok_iff_text?,
      Except.ok.injEq, exists_eq_left', true_implies, holds]
    constructor
    · rintro ⟨_, kind, kinded, name, named, _⟩
      exact ⟨⟨kind, kinded⟩, name, named⟩
    · rintro ⟨⟨kind, kinded⟩, name, named⟩
      exact ⟨_, kind, kinded, name, named, rfl⟩
  case isFalse nothing => exact iff_of_true ⟨_, rfl⟩ fun holds => absurd holds nothing

end Pod

namespace StatefulSet

@[mk_iff] structure Spells (fields : List (String × Json)) (s : StatefulSet) : Prop where
  ns : (Json.text? "namespace" fields).getD "default" = s.ns
  name : Json.text? "name" fields = some s.name
  uid : (Json.text? "uid" fields).getD "" = s.uid
  replicas : Json.toInteger ((Json.lookup? "replicas" fields).getD (.integer 0)) = .ok s.replicas

theorem ofJson_eq_ok_iff {s : StatefulSet} : ofJson (.object fields) = .ok s ↔ Spells fields s := by
  unfold ofJson
  simp only [bind_eq_ok_iff, Json.fieldOr_object, Json.textFieldOr_object, Json.textField_eq_ok_iff_text?,
    Except.ok.injEq, exists_eq_left', pure_eq_ok_iff]
  constructor
  · rintro ⟨name, named, replicas, counted, rfl⟩
    exact ⟨rfl, named, rfl, counted⟩
  · obtain ⟨ns, name, uid, replicas⟩ := s
    rintro ⟨rfl, named, rfl, counted⟩
    exact ⟨_, named, _, counted, rfl⟩

theorem exists_ofJson_iff : (∃ s, ofJson (.object fields) = .ok s) ↔
    (∃ name, Json.text? "name" fields = some name) ∧
      ∃ replicas, Json.toInteger ((Json.lookup? "replicas" fields).getD (.integer 0)) = .ok replicas := by
  constructor
  · rintro ⟨s, read⟩
    have spells := ofJson_eq_ok_iff.mp read
    exact ⟨⟨_, spells.name⟩, _, spells.replicas⟩
  · rintro ⟨⟨name, named⟩, replicas, counted⟩
    exact ⟨⟨_, name, _, replicas⟩, ofJson_eq_ok_iff.mpr ⟨rfl, named, rfl, counted⟩⟩

end StatefulSet

namespace RemotePeer

def annotated (annotations : Json) : Except Fault Json :=
  Json.fieldOr nodeLocalAnnotation .null (if annotations.holds then annotations else .object [])

@[mk_iff] structure Spells (fields : List (String × Json)) (p : RemotePeer) : Prop where
  name : Json.text? "name" fields = some p.name
  cluster : (Json.text? "cluster" fields).getD "" = p.cluster
  node : (Json.text? "node" fields).getD p.name = p.node
  vtepIP : ∃ v, Json.lookup? "vtepIP" fields = some v ∧
    ∃ address, Address.ofJson v = .ok address ∧ address.text = p.vtepIP
  vtepMAC : (Json.text? "vtepMAC" fields).map Text.lower = some p.vtepMAC
  nodeLocalIPs : ∃ noted, annotated ((Json.lookup? "annotations" fields).getD .null) = .ok noted ∧
    AddressList.ofJson ((Json.lookup? "nodeLocalVxlanIPs" fields).getD noted) = .ok p.nodeLocalIPs
  endpointIPs : AddressList.ofJson ((Json.lookup? "endpointIPs" fields).getD .null) = .ok p.endpointIPs

theorem ofJson_eq_ok_iff {p : RemotePeer} : ofJson (.object fields) = .ok p ↔ Spells fields p := by
  unfold ofJson
  simp only [bind_eq_ok_iff, pure_eq_ok_iff, Json.field_object_eq_ok_iff, Json.fieldOr_object, Json.textFieldOr_object,
    Json.textField_eq_ok_iff_text?, Except.ok.injEq, exists_eq_left']
  constructor
  · rintro ⟨noted, annotated, name, named, v, given, ip, read, mac, known, local', listed, endpoints, ended, rfl⟩
    exact ⟨named, rfl, rfl, ⟨v, given, ip, read, rfl⟩, by rw [known]; rfl, ⟨noted, annotated, listed⟩, ended⟩
  · obtain ⟨name, cluster, node, ip, mac, local', endpoints⟩ := p
    rintro ⟨named, rfl, chosen, ⟨v, given, ip, read, rfl⟩, known, ⟨noted, annotated, listed⟩, ended⟩
    dsimp only at chosen
    subst chosen
    obtain ⟨mac, written, rfl⟩ := Option.map_eq_some_iff.mp known
    exact ⟨_, annotated, _, named, _, given, _, read, _, written, _, listed, _, ended, rfl⟩

theorem exists_ofJson_iff : (∃ p, ofJson (.object fields) = .ok p) ↔
    (∃ name, Json.text? "name" fields = some name) ∧
      (∃ v, Json.lookup? "vtepIP" fields = some v ∧ ∃ address, Address.ofJson v = .ok address) ∧
      (∃ mac, Json.text? "vtepMAC" fields = some mac) ∧
      (∃ noted, annotated ((Json.lookup? "annotations" fields).getD .null) = .ok noted ∧
        ∃ ips, AddressList.ofJson ((Json.lookup? "nodeLocalVxlanIPs" fields).getD noted) = .ok ips) ∧
      ∃ ips, AddressList.ofJson ((Json.lookup? "endpointIPs" fields).getD .null) = .ok ips := by
  constructor
  · rintro ⟨p, read⟩
    have spells := ofJson_eq_ok_iff.mp read
    obtain ⟨v, given, address, located, _⟩ := spells.vtepIP
    obtain ⟨mac, written, _⟩ := Option.map_eq_some_iff.mp spells.vtepMAC
    obtain ⟨noted, annotated, listed⟩ := spells.nodeLocalIPs
    exact ⟨⟨_, spells.name⟩, ⟨v, given, address, located⟩, ⟨mac, written⟩, ⟨noted, annotated, _, listed⟩, _,
      spells.endpointIPs⟩
  · rintro ⟨⟨name, named⟩, ⟨v, given, address, located⟩, ⟨mac, written⟩, ⟨noted, annotated, ips, listed⟩, ends, ended⟩
    let node := (Json.text? "node" fields).getD name
    exact ⟨⟨name, _, node, address.text, Text.lower mac, ips, ends⟩, ofJson_eq_ok_iff.mpr
      ⟨named, rfl, rfl, ⟨v, given, address, located, rfl⟩, by rw [written]; rfl, ⟨noted, annotated, listed⟩, ended⟩⟩

end RemotePeer

namespace RemoteSubnet

@[mk_iff] structure Spells (fields : List (String × Json)) (s : RemoteSubnet) : Prop where
  name : Json.text? "name" fields = some s.name
  cluster : (Json.text? "cluster" fields).getD "" = s.cluster
  networkType : NetworkType.ofText ((Json.text? "networkType" fields).getD NetworkType.overlay.name) = .ok s.networkType
  cidr : ∃ v, Json.lookup? "cidr" fields = some v ∧ ∃ block, Block.ofJson v = .ok block ∧ block.text = s.cidr
  gateway : ((Json.lookup? "gateway" fields).filter Json.holds).map Json.describe = s.gateway

theorem ofJson_eq_ok_iff {s : RemoteSubnet} : ofJson (.object fields) = .ok s ↔ Spells fields s := by
  unfold ofJson
  simp only [bind_eq_ok_iff, pure_eq_ok_iff, Json.field_object_eq_ok_iff, Json.textFieldOr_object,
    Json.textField?_object, Json.textField_eq_ok_iff_text?, Except.ok.injEq, exists_eq_left']
  constructor
  · rintro ⟨name, named, type, typed, v, given, block, read, rfl⟩
    exact ⟨named, rfl, typed, ⟨v, given, block, read, rfl⟩, rfl⟩
  · obtain ⟨name, cluster, type, cidr, gateway⟩ := s
    rintro ⟨named, rfl, typed, ⟨v, given, block, read, rfl⟩, rfl⟩
    exact ⟨_, named, _, typed, _, given, _, read, rfl⟩

theorem exists_ofJson_iff : (∃ s, ofJson (.object fields) = .ok s) ↔
    (∃ name, Json.text? "name" fields = some name) ∧
      (∃ type, NetworkType.ofText ((Json.text? "networkType" fields).getD NetworkType.overlay.name) = .ok type) ∧
      ∃ v, Json.lookup? "cidr" fields = some v ∧ ∃ block, Block.ofJson v = .ok block := by
  constructor
  · rintro ⟨s, read⟩
    have spells := ofJson_eq_ok_iff.mp read
    obtain ⟨v, given, block, blocked, _⟩ := spells.cidr
    exact ⟨⟨_, spells.name⟩, ⟨_, spells.networkType⟩, v, given, block, blocked⟩
  · rintro ⟨⟨name, named⟩, ⟨type, typed⟩, v, given, block, blocked⟩
    exact ⟨⟨name, _, type, block.text, _⟩,
      ofJson_eq_ok_iff.mpr ⟨named, rfl, typed, ⟨v, given, block, blocked, rfl⟩, rfl⟩⟩

end RemoteSubnet

end PodAddressing
