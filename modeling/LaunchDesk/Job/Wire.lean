import LaunchDesk.Job.Basic
import LaunchDesk.Json.Parser
import LaunchDesk.Json.Printer
import LaunchDesk.Wire.Layout

/-!
# The wire format of jobs

The layout of every record that goes to the platform or comes from it. What the platform sends may
leave out nearly everything; what it is sent is complete, but for options without a value.
-/

namespace LaunchDesk

open LaunchDesk.Field

/-- A value of a type that the platform and the program exchange. -/
class Wire (α : Type) where
  /-- The form of the values. -/
  codec : Codec α

/-- The form of the values of a type. -/
def Codec.of (α : Type) [Wire α] : Codec α :=
  Wire.codec

/-- The value that a JSON text holds. -/
def decode? (α : Type) [Wire α] (text : String) : Option α :=
  (Json.parse? text).bind (Codec.of α).read?

/-- The value that a byte string holds. -/
def decodeBytes? (α : Type) [Wire α] (bytes : List UInt8) : Option α :=
  (Json.ofBytes? bytes).bind (Codec.of α).read?

/-- The JSON text of a value. -/
def encode {α : Type} [Wire α] (a : α) : String :=
  ((Codec.of α).write a).render

/-- A platform is written as its name, and may also be read from an object in which the name has no
value. -/
instance : Wire Platform where
  codec :=
    { read? := fun
        | .str (some name) => if name = Platform.falcon.name then some .falcon else none
        | .obj [(some name, .null)] => if name = Platform.falcon.name then some .falcon else none
        | _ => none
      write := fun p => Json.text p.name }

/-- A status is written as the platform's word. -/
instance : Wire StartStatus where
  codec :=
    { read? := fun doc => doc.asText?.map StartStatus.ofWord
      write := fun s => Json.text s.word }

namespace Machine

/-- The fields of a machine. -/
def layout := Layout.cons (default "gpu_provider" .string "") <|
  .cons (default "gpu_instance" .string "") <|
  .cons (default "cpu_count" .count 0) <|
  .cons (default "mem_size" .amount 0) <|
  .cons (default "gpu_type" .string "") <|
  .cons (default "gpu_num" .count 0) <|
  .cons (default "gpu_region" .string "") <|
  .cons (default "cost" .amount 0) .nil

end Machine

instance : Wire Machine where
  codec := Machine.layout.codec
    (fun (p, i, v, m, a, n, r, c, _) => ⟨p, i, v, m, a, n, r, c⟩)
    (fun m => (m.provider, m.instanceType, m.vcpus, m.memory, m.accelerator, m.acceleratorCount,
      m.region, m.cost, ()))

namespace Offer

/-- The fields of an offer. -/
def layout := Layout.cons (default "job_id" .string "") <|
  .cons (default "job_url" .string "") <|
  .cons (default "status" (Codec.of StartStatus) .submitted) <|
  .cons (optional "message" .string) <|
  .cons (default "gpu_matched" (.list (Codec.of Machine)) []) <|
  .cons (optional "cluster_id" .string) <|
  .cons (optional "project_name" .string) <|
  .cons (optional "job_name" .string) .nil

end Offer

instance : Wire Offer where
  codec := Offer.layout.codec
    (fun (i, u, s, m, ms, c, p, n, _) => ⟨i, u, s, m, ms, c, p, n⟩)
    (fun o => (o.jobId, o.jobUrl, o.status, o.message, o.machines, o.clusterId, o.projectName,
      o.jobName, ()))

namespace Receipt

/-- The fields of a receipt. -/
def layout := Layout.cons (default "job_id" .string "") <|
  .cons (default "job_url" .string "") <|
  .cons (optional "project_name" .string) <|
  .cons (optional "job_name" .string) <|
  .cons (optional "status" .string) <|
  .cons (optional "message" .string) .nil

end Receipt

instance : Wire Receipt where
  codec := Receipt.layout.codec
    (fun (i, u, p, n, s, m, _) => ⟨i, u, p, n, s, m⟩)
    (fun r => (r.jobId, r.jobUrl, r.projectName, r.jobName, r.status, r.message, ()))

namespace JobRecord

/-- The fields of a job record. -/
def layout := Layout.cons (default "job_name" .string "") <|
  .cons (required "job_id" .string) <|
  .cons (default "status" .string "") <|
  .cons (default "started_time" .string "") <|
  .cons (default "compute_duration" .amount 0) <|
  .cons (default "cost" .amount 0) .nil

end JobRecord

instance : Wire JobRecord where
  codec := JobRecord.layout.codec
    (fun (n, i, s, t, h, c, _) => ⟨n, i, s, t, h, c⟩)
    (fun r => (r.jobName, r.jobId, r.status, r.startedAt, r.hours, r.cost, ()))

namespace JobList

/-- The fields of a list of jobs. -/
def layout := Layout.cons (default "job_list" (.list (Codec.of JobRecord)) []) .nil

end JobList

instance : Wire JobList where
  codec := JobList.layout.codec (fun (jobs, _) => ⟨jobs⟩) (fun l => (l.jobs, ()))

namespace ClusterReply

/-- The fields of the answer to a confirmed cluster. -/
def layout := Layout.cons (default "confirmed" .bool false) .nil

end ClusterReply

instance : Wire ClusterReply where
  codec := ClusterReply.layout.codec (fun (b, _) => ⟨b⟩) (fun r => (r.confirmed, ()))

namespace ScheduleRequest

/-- The fields of the request to schedule a job. -/
def layout := Layout.cons (required "job_file_name" .string) <|
  .cons (required "job_yaml" .string) <|
  .cons (unlessNone "group_id" .string) <|
  .cons (unlessNone "cluster_name" .string) .nil

end ScheduleRequest

instance : Wire ScheduleRequest where
  codec := ScheduleRequest.layout.codec
    (fun (f, d, g, c, _) => ⟨f, d, g, c⟩)
    (fun r => (r.fileName, r.definition, r.groupId, r.clusterName, ()))

namespace StartRequest

/-- The fields of the request to start a job. -/
def layout := Layout.cons (required "job_id" .string) <|
  .cons (unlessNone "project_name" .string) <|
  .cons (unlessNone "job_name" .string) .nil

end StartRequest

instance : Wire StartRequest where
  codec := StartRequest.layout.codec
    (fun (i, p, n, _) => ⟨i, p, n⟩)
    (fun r => (r.jobId, r.projectName, r.jobName, ()))

namespace StopRequest

/-- The fields of the request to stop a job. -/
def layout := Layout.cons (required "job_id" .string) <|
  .cons (required "platform" (Codec.of Platform)) .nil

end StopRequest

instance : Wire StopRequest where
  codec := StopRequest.layout.codec (fun (i, p, _) => ⟨i, p⟩) (fun r => (r.jobId, r.platform, ()))

namespace ListRequest

/-- The fields of the request for a list of jobs. -/
def layout := Layout.cons (required "project_name" .string) <|
  .cons (required "platform" (Codec.of Platform)) <|
  .cons (unlessNone "job_id" .string) .nil

end ListRequest

instance : Wire ListRequest where
  codec := ListRequest.layout.codec
    (fun (p, t, j, _) => ⟨p, t, j⟩)
    (fun r => (r.projectName, r.platform, r.jobId, ()))

namespace ClusterRequest

/-- The fields of the request to take a cluster. -/
def layout := Layout.cons (required "cluster_id" .string) <|
  .cons (required "gpu_matched" (.list (Codec.of Machine))) .nil

end ClusterRequest

instance : Wire ClusterRequest where
  codec := ClusterRequest.layout.codec
    (fun (c, ms, _) => ⟨c, ms⟩)
    (fun r => (r.clusterId, r.machines, ()))

end LaunchDesk
