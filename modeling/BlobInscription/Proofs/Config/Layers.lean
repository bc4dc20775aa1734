import BlobInscription.Config
import BlobInscription.Proofs.Traversal
import Mathlib.Tactic.Common

namespace BlobInscription.Config

open Traversal

/-- The endpoint that the file names. -/
def fileEndpoint (s : Sources) : Rpc.Endpoint :=
  match s.sectionOf "rpc" with
  | .ok file => (Rpc.Endpoint.ofDatum (Datum.lookup file "endpoint")).toOption.getD {}
  | .error _ => {}

section Layers

variable {d : Datum} {rest : List Datum} {l : Layers} {key name value : String}

theorem firstOf_of_isNull (h : d.isNull = true) : firstOf (d :: rest) = firstOf rest := by
  rw [firstOf, if_pos h]

theorem firstOf_of_not_isNull (h : d.isNull = false) : firstOf (d :: rest) = d := by
  rw [firstOf, if_neg (by simp [h])]

theorem eq_null_of_isNull (h : d.isNull = true) : d = .null := by
  cases d with
  | null => rfl
  | _ => cases h

theorem fromEnv_of_lookup {env : List (String × String)} (h : env.lookup name = some value) :
    fromEnv env name = .text value := by
  rw [fromEnv, h]

theorem fromEnv_of_lookup_none {env : List (String × String)} (h : env.lookup name = none) :
    fromEnv env name = .null := by
  rw [fromEnv, h]

theorem pick_of_file (hoverride : (Datum.lookup l.overrides key).isNull = true)
    (henv : l.env.lookup name = none) : l.pick key name = Datum.lookup l.file key := by
  rw [Layers.pick, Layers.values]
  dsimp only
  rw [fromEnv_of_lookup_none henv, firstOf_of_isNull hoverride, firstOf_of_isNull rfl]
  cases hfile : (Datum.lookup l.file key).isNull with
  | true =>
      rw [eq_null_of_isNull hfile]
      rfl
  | false => rw [firstOf_of_not_isNull hfile]

end Layers

section Connections

variable {s s' : Sources} {c c' : Rpc.Connection} {overrides : List (Datum × Datum)}

theorem exists_of_connection (h : connection s = .ok c) :
    ∃ file overrides e, s.sectionOf "rpc" = .ok file ∧
      overrideEntries s.overrides = .ok overrides ∧
      let l : Layers := { overrides, env := s.env, file }
      Rpc.Endpoint.ofDatum (l.pick "endpoint" "BITCOIN_DA_RPC_URL") = .ok e ∧
      (l.pick "user" "BITCOIN_DA_RPC_USER").truthy = true ∧
      (l.pick "password" "BITCOIN_DA_RPC_PASSWORD").truthy = true ∧
      portOf s.path l e s.nesting = .ok c.port ∧
      textOf (l.pick "user" "BITCOIN_DA_RPC_USER") s.nesting = .ok c.user ∧
      textOf (l.pick "password" "BITCOIN_DA_RPC_PASSWORD") s.nesting = .ok c.password ∧
      c.host = hostOf l e ∧ c.useHttps = httpsOf l e := by
  simp only [connection, bind_eq_ok, check_bind_eq_ok, endpoint, mapError_eq_ok] at h
  obtain ⟨file, hfile, overrides, hoverrides, e, he, hgiven, port, hport, user, huser, password,
    hpassword, hc⟩ := h
  cases hc
  simp only [Bool.or_eq_true, Bool.not_eq_true', not_or, Bool.not_eq_false] at hgiven
  exact ⟨file, overrides, e, hfile, hoverrides, he, hgiven.1, hgiven.2, hport, huser, hpassword,
    rfl, rfl⟩

variable (h : connection s = .ok c) (hentries : overrideEntries s.overrides = .ok overrides)
  (hendpoint : (Datum.lookup overrides "endpoint").isNull = true)
  (hurl : s.env.lookup "BITCOIN_DA_RPC_URL" = none)

include h hentries hendpoint hurl

theorem exists_of_fileEndpoint :
    ∃ file, s.sectionOf "rpc" = .ok file ∧
      let l : Layers := { overrides, env := s.env, file }
      portOf s.path l (fileEndpoint s) s.nesting = .ok c.port ∧ c.host = hostOf l (fileEndpoint s) ∧
        c.useHttps = httpsOf l (fileEndpoint s) := by
  obtain ⟨file, overrides', e, hfile, hoverrides, he, -, -, hport, -, -, hhost, hhttps⟩ :=
    exists_of_connection h
  rw [hentries, Except.ok.injEq] at hoverrides
  subst hoverrides
  rw [pick_of_file hendpoint hurl] at he
  have hnamed : fileEndpoint s = e := by
    rw [fileEndpoint, hfile]
    dsimp only
    rw [he]
    rfl
  rw [hnamed]
  exact ⟨file, hfile, hport, hhost, hhttps⟩

theorem host_of_env {host : String}
    (hoverride : (Datum.lookup overrides "host").isNull = true)
    (henv : s.env.lookup "BITCOIN_DA_RPC_HOST" = some host) :
    c.host = .text ((fileEndpoint s).host?.getD host) := by
  obtain ⟨file, -, -, hhost, -⟩ := exists_of_fileEndpoint h hentries hendpoint hurl
  rw [hhost, hostOf, Layers.values]
  dsimp only
  rw [firstOf_of_isNull hoverride, fromEnv_of_lookup henv]
  cases (fileEndpoint s).host? with
  | none => rfl
  | some named => rfl

theorem port_of_env {value : String} {port : Int}
    (hoverride : (Datum.lookup overrides "port").isNull = true)
    (henv : s.env.lookup "BITCOIN_DA_RPC_PORT" = some value)
    (hvalid : (Datum.text value).toInteger = .ok port) :
    c.port = ((fileEndpoint s).port?.map Int.ofNat).getD port := by
  obtain ⟨file, -, hport, -, -⟩ := exists_of_fileEndpoint h hentries hendpoint hurl
  have hread : ∀ source, readInt? source (.text value) s.nesting = .ok (some port) := by
    intro source
    rw [readInt?, readNumber?, hvalid]
    rfl
  have hnone : ∀ source, readInt? source .null s.nesting = .ok none := fun _ => rfl
  rw [portOf, Layers.values] at hport
  dsimp only at hport
  rw [eq_null_of_isNull hoverride, fromEnv_of_lookup henv, hread, hnone] at hport
  simp only [bind_eq_ok, Except.ok.injEq, exists_eq_left'] at hport
  obtain ⟨file?, -, hport⟩ := hport
  rw [← Except.ok.inj hport]
  cases (fileEndpoint s).port? with
  | none => rfl
  | some named => rfl

theorem useHttps_of_env {value : String} {https : Bool}
    (hoverride : (Datum.lookup overrides "use_https").isNull = true)
    (henv : s.env.lookup "BITCOIN_DA_RPC_USE_HTTPS" = some value)
    (hvalid : readBool? (.text value) = some https) :
    c.useHttps = (fileEndpoint s).useHttps?.getD https := by
  obtain ⟨file, -, -, -, hhttps⟩ := exists_of_fileEndpoint h hentries hendpoint hurl
  rw [hhttps, httpsOf, Layers.values]
  dsimp only
  rw [eq_null_of_isNull hoverride, fromEnv_of_lookup henv, hvalid]
  cases (fileEndpoint s).useHttps? with
  | none => rfl
  | some named => rfl

end Connections

theorem getD_eq_iff {α : Type} {named? : Option α} {value : α} :
    named?.getD value = value ↔ ∀ named, named? = some named → named = value := by
  cases named? with
  | none => simp
  | some named => simp

end BlobInscription.Config
