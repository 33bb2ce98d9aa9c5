/-
# The endpoint behind a configuration digest

The record of a call names the configuration it was made under by a digest.  The digest covers the
provider, the origin, the path, the static headers and the parameters.
-/
import Akson.Broker.Attempt

namespace Akson

open Operation Option List

namespace ProcessorConfig

def bound (c : ProcessorConfig) : Json :=
  .obj [("config", c.config),
    ("headers", .arr (c.headers.map (fun h => .arr [.str h.1, .str h.2]))),
    ("origin", c.origin.json), ("path", .str c.path), ("provider", .str c.provider)]

def boundBytes (env : Env) (c : ProcessorConfig) : Bytes := Json.canonicalBytes env.fmtNum c.bound

theorem configDigest_eq (env : Env) (c : ProcessorConfig) :
    c.configDigest env = hex (env.sha256 (c.boundBytes env)) := rfl

end ProcessorConfig

theorem Origin.eq_of_sortKeys_json {o o' : Origin}
    (h : Json.sortKeys o.json = Json.sortKeys o'.json) : o = o' := by
  obtain ⟨scheme, host, port⟩ := o
  obtain ⟨scheme', host', port'⟩ := o'
  have hnames : ["host", "port", "scheme"].Nodup := by decide
  have hhost : host = host' := Json.str.inj (Json.sortKeys_eq_of_mem (k := "host") h hnames
    mem_cons_self mem_cons_self)
  have hport : port = port' := Rat.natCast_inj.1 (Json.num.inj (Json.sortKeys_eq_of_mem
    (k := "port") h hnames (.tail _ mem_cons_self) (.tail _ mem_cons_self)))
  have hscheme : scheme = scheme' := Json.str.inj (Json.sortKeys_eq_of_mem (k := "scheme") h hnames
    (.tail _ (.tail _ mem_cons_self)) (.tail _ (.tail _ mem_cons_self)))
  rw [hhost, hport, hscheme]

theorem sortKeys_headers (headers : List (String × String)) :
    Json.sortKeys (.arr (headers.map (fun h => .arr [.str h.1, .str h.2]))) =
      .arr (headers.map (fun h => .arr [.str h.1, .str h.2])) := by
  rw [Json.sortKeys, Json.sortKeysElems_eq_map, List.map_map]
  rfl

theorem ProcessorConfig.eq_of_sortKeys_bound {c c' : ProcessorConfig}
    (h : Json.sortKeys c.bound = Json.sortKeys c'.bound) :
    c.origin = c'.origin ∧ c.path = c'.path ∧ c.headers = c'.headers := by
  have hnames : ["config", "headers", "origin", "path", "provider"].Nodup := by decide
  have horigin : Json.sortKeys c.origin.json = Json.sortKeys c'.origin.json :=
    Json.sortKeys_eq_of_mem (k := "origin") h hnames (.tail _ (.tail _ mem_cons_self))
      (.tail _ (.tail _ mem_cons_self))
  have hpath : c.path = c'.path := Json.str.inj (Json.sortKeys_eq_of_mem (k := "path") h hnames
    (.tail _ (.tail _ (.tail _ mem_cons_self))) (.tail _ (.tail _ (.tail _ mem_cons_self))))
  have hheaders := Json.sortKeys_eq_of_mem (k := "headers") h hnames (.tail _ mem_cons_self)
    (.tail _ mem_cons_self)
  rw [sortKeys_headers, sortKeys_headers] at hheaders
  refine ⟨Origin.eq_of_sortKeys_json horigin, hpath, ?_⟩
  refine map_injective_iff.2 ?_ (Json.arr.inj hheaders)
  rintro ⟨name, value⟩ ⟨name', value'⟩ heq
  simpa using heq

/-- Two calls that reach the same endpoint. -/
structure Outbound.SameDestination (a b : Outbound) : Prop where
  host : a.call.origin.host = b.call.origin.host
  port : a.call.origin.port = b.call.origin.port
  path : a.path = b.path
  headers : a.headers = b.headers

section Digest

variable {env : Env} {P : Rat → Prop} {c c' : ProcessorConfig}

theorem bound_of_configDigest_eq (hnum : Json.NumText env.fmtNum P) (hc : Json.NumsIn P c.bound)
    (hc' : Json.NumsIn P c'.bound)
    (hsha : env.sha256 (c.boundBytes env) = env.sha256 (c'.boundBytes env) →
      c.boundBytes env = c'.boundBytes env)
    (h : c.configDigest env = c'.configDigest env) :
    c.origin = c'.origin ∧ c.path = c'.path ∧ c.headers = c'.headers := by
  rw [ProcessorConfig.configDigest_eq, ProcessorConfig.configDigest_eq] at h
  have hbytes := hsha (hex_inj h)
  exact ProcessorConfig.eq_of_sortKeys_bound (Json.canonicalBytes_inj hnum hc hc' hbytes)

/-- Two calls whose records name the same configuration digest go to the same destination.  How the
credential is presented and which certificate is trusted is what each configuration says of it. -/
theorem dispatched_destination_of_digest (hnum : Json.NumText env.fmtNum P)
    {q q' : CallRequest} {ticket ticket' : CallTicket} {s s₁ s' s₁' : Store} {out out' : Outbound}
    (hrun : exec (beginDispatch env q ticket) s = (.ok (.dispatching out), s₁))
    (hrun' : exec (beginDispatch env q' ticket') s' = (.ok (.dispatching out'), s₁'))
    (hconfig : s.getProcessor q.processorId = some c)
    (hconfig' : s'.getProcessor q'.processorId = some c')
    (hc : Json.NumsIn P c.bound) (hc' : Json.NumsIn P c'.bound)
    (hsha : env.sha256 (c.boundBytes env) = env.sha256 (c'.boundBytes env) →
      c.boundBytes env = c'.boundBytes env)
    (hdigest : out.call.configDigest = out'.call.configDigest) :
    out.SameDestination out' ∧ (out.auth = c.auth ∧ out.expectedCert = c.tlsCertificateSha256) ∧
      (out'.auth = c'.auth ∧ out'.expectedCert = c'.tlsCertificateSha256) := by
  obtain ⟨config, hbegins, rfl, -⟩ := beginDispatch_dispatches hrun
  obtain ⟨config', hbegins', rfl, -⟩ := beginDispatch_dispatches hrun'
  obtain rfl := some.inj (hbegins.configured.symm.trans hconfig)
  obtain rfl := some.inj (hbegins'.configured.symm.trans hconfig')
  obtain ⟨horigin, hpath, hheaders⟩ := bound_of_configDigest_eq hnum hc hc' hsha hdigest
  refine ⟨⟨?_, ?_, hpath, hheaders⟩, ⟨rfl, rfl⟩, rfl, rfl⟩
  · exact congrArg Origin.host horigin
  · exact congrArg Origin.port horigin

end Digest

/-! ### A processor that is pinned anew -/

def pinnedLlm : ProcessorConfig :=
  { localLlm with
    tlsCertificateSha256 :=
      some "5feceb66ffc86f38d952786c6d696c79c2dbc239dd4e91b46729d73a27fb57e9" }

def llmStore (c : ProcessorConfig) : Store where
  processors := ⟨[c.row 1800000000], pairwise_singleton _ _⟩

def llmTicket (c : ProcessorConfig) : CallTicket where
  binding := ⟨brokerWire.orderId, "", "task-1"⟩
  budget := ⟨0, "2027-01-15T09:00:00Z", 4096, 1⟩
  policy := c.egressPolicy

theorem begins_llmStore (c : ProcessorConfig) (hid : c.processorId = "local-llm")
    (horigin : checkOrigin c.origin c.egressPolicy = .ok ()) :
    Begins brokerWire.taskEnv (brokerWire.llmCall 1800000000) (llmTicket c) (llmStore c) c where
  configured := by
    change ([c.row 1800000000].find? (fun r => r.processorId = "local-llm")).map _ = _
    rw [find?_cons_of_pos (by exact decide_eq_true hid), map_some]
    rfl
  permitted := horigin
  room := .inr ⟨Table.find_empty _, Nat.zero_lt_one⟩

theorem numText_llmPort : Json.NumText intText (fun q => q = 8443) where
  ne_nil := by
    rintro q rfl
    decide
  chars := by
    rintro q rfl
    exact all_eq_true.1 (by decide)
  inj := by
    rintro q r rfl rfl _
    rfl

theorem numsIn_bound_llm {c : ProcessorConfig} (h : c.bound = localLlm.bound) :
    Json.NumsIn (fun q => q = 8443) c.bound := by
  rw [h]
  simp [ProcessorConfig.bound, localLlm, Origin.json, Json.NumsIn, Json.NumsInMembers,
    Json.NumsInElems]

/-- A certificate that is pinned does not change where a call goes. -/
theorem dispatched_destination_of_digest_pinned : ∃ out out' s s',
    exec (beginDispatch brokerWire.taskEnv (brokerWire.llmCall 1800000000) (llmTicket localLlm))
      (llmStore localLlm) = (.ok (.dispatching out), s) ∧
    exec (beginDispatch brokerWire.taskEnv (brokerWire.llmCall 1800000000) (llmTicket pinnedLlm))
      (llmStore pinnedLlm) = (.ok (.dispatching out'), s') ∧
    out.call.configDigest = out'.call.configDigest ∧ out.SameDestination out' := by
  have hbegins := begins_llmStore localLlm rfl (by decide)
  have hbegins' := begins_llmStore pinnedLlm rfl (by decide)
  obtain ⟨out, s, hrun, hcall, -⟩ := exec_beginDispatch_of_begins hbegins
  obtain ⟨out', s', hrun', hcall', -⟩ := exec_beginDispatch_of_begins hbegins'
  have hdigest : out.call.configDigest = out'.call.configDigest := by
    rw [hcall, hcall']
    rfl
  refine ⟨out, out', s, s', hrun, hrun', hdigest, ?_⟩
  exact (dispatched_destination_of_digest numText_llmPort hrun hrun' hbegins.configured
    hbegins'.configured (numsIn_bound_llm rfl) (numsIn_bound_llm rfl) (fun _ => rfl) hdigest).1

/-- A certificate is pinned for the processor: the digest in the record of a call is the same, and
the transport trusts another endpoint. -/
theorem dispatched_under_other_certificate : ∃ out out' s s',
    exec (beginDispatch brokerWire.taskEnv (brokerWire.llmCall 1800000000) (llmTicket localLlm))
      (llmStore localLlm) = (.ok (.dispatching out), s) ∧
    exec (beginDispatch brokerWire.taskEnv (brokerWire.llmCall 1800000000) (llmTicket pinnedLlm))
      (llmStore pinnedLlm) = (.ok (.dispatching out'), s') ∧
    out.call.configDigest = out'.call.configDigest ∧ out.expectedCert ≠ out'.expectedCert := by
  have hbegins := begins_llmStore localLlm rfl (by decide)
  have hbegins' := begins_llmStore pinnedLlm rfl (by decide)
  obtain ⟨out, s, hrun, -⟩ := exec_beginDispatch_of_begins hbegins
  obtain ⟨out', s', hrun', -⟩ := exec_beginDispatch_of_begins hbegins'
  refine ⟨out, out', s, s', hrun, hrun', ?_⟩
  obtain ⟨config, hconfig, rfl, -⟩ := beginDispatch_dispatches hrun
  obtain ⟨config', hconfig', rfl, -⟩ := beginDispatch_dispatches hrun'
  obtain rfl := some.inj (hconfig.configured.symm.trans hbegins.configured)
  obtain rfl := some.inj (hconfig'.configured.symm.trans hbegins'.configured)
  exact ⟨rfl, by decide⟩

end Akson
