import Mathlib.Data.Nat.Notation

/-!
# Controlled vocabularies

The enumerations of `domain/enums.py` that the modelled functions use, with the string value of
each member.
-/

namespace ZubotIngestion

/-- Lifecycle status of an extraction job. -/
inductive JobStatus : Type where
  /-- In the task queue, not yet picked up. -/
  | queued
  /-- A worker runs the pipeline. -/
  | processing
  /-- Alias used by the database layer. -/
  | inProgress
  /-- Successfully extracted. -/
  | completed
  /-- Unrecoverable error. -/
  | failed
  /-- Needs a human. -/
  | review
  /-- A human rejected the result. -/
  | rejected
  /-- Answered from the dedup cache. -/
  | cached
  deriving DecidableEq, Repr

/-- The stored string of a status. -/
def JobStatus.value : JobStatus → String
  | queued => "queued"
  | processing => "processing"
  | inProgress => "in_progress"
  | completed => "completed"
  | failed => "failed"
  | review => "review"
  | rejected => "rejected"
  | cached => "cached"

/-- Extraction mode of a batch. -/
inductive ExtractionMode : Type where
  | auto
  | drawing
  | title
  | fast
  | accurate
  deriving DecidableEq, Repr

/-- The string of a mode. -/
def ExtractionMode.value : ExtractionMode → String
  | auto => "auto"
  | drawing => "drawing"
  | title => "title"
  | fast => "fast"
  | accurate => "accurate"

/-- Confidence tier assigned after weighted scoring. -/
inductive ConfidenceTier : Type where
  /-- Proceed automatically. -/
  | auto
  /-- Spot check recommended. -/
  | spot
  /-- Human review required. -/
  | review
  deriving DecidableEq, Repr

/-- The stored string of a tier. -/
def ConfidenceTier.value : ConfidenceTier → String
  | auto => "auto"
  | spot => "spot"
  | review => "review"

/-- Controlled vocabulary of document types; `document` is the fallback. -/
inductive DocumentType : Type where
  | technicalDrawing
  | floorPlan
  | electricalSchematic
  | mechanicalDrawing
  | plumbingDrawing
  | fireSafetyPlan
  | inspectionReport
  | maintenanceLog
  | complianceCertificate
  | equipmentManual
  | specification
  | riskAssessment
  | schedule
  | commissioningReport
  | warrantyCertificate
  | productDataSheet
  | safetyDataSheet
  | testCertificate
  | methodStatement
  | asBuiltDrawing
  | document
  deriving DecidableEq, Repr

namespace DocumentType

/-- The string of a document type. -/
def value : DocumentType → String
  | technicalDrawing => "technical_drawing"
  | floorPlan => "floor_plan"
  | electricalSchematic => "electrical_schematic"
  | mechanicalDrawing => "mechanical_drawing"
  | plumbingDrawing => "plumbing_drawing"
  | fireSafetyPlan => "fire_safety_plan"
  | inspectionReport => "inspection_report"
  | maintenanceLog => "maintenance_log"
  | complianceCertificate => "compliance_certificate"
  | equipmentManual => "equipment_manual"
  | specification => "specification"
  | riskAssessment => "risk_assessment"
  | schedule => "schedule"
  | commissioningReport => "commissioning_report"
  | warrantyCertificate => "warranty_certificate"
  | productDataSheet => "product_data_sheet"
  | safetyDataSheet => "safety_data_sheet"
  | testCertificate => "test_certificate"
  | methodStatement => "method_statement"
  | asBuiltDrawing => "as_built_drawing"
  | document => "document"

/-- The members in the order of the source. -/
def members : List DocumentType :=
  [technicalDrawing, floorPlan, electricalSchematic, mechanicalDrawing, plumbingDrawing,
    fireSafetyPlan, inspectionReport, maintenanceLog, complianceCertificate, equipmentManual,
    specification, riskAssessment, schedule, commissioningReport, warrantyCertificate,
    productDataSheet, safetyDataSheet, testCertificate, methodStatement, asBuiltDrawing, document]

/-- `DocumentType(text)`: the member with this string, if there is one. -/
def ofValue? (text : String) : Option DocumentType :=
  members.find? fun member => member.value = text

end DocumentType

/-- Engineering discipline. -/
inductive Discipline : Type where
  | architectural
  | electrical
  | mechanical
  | plumbing
  | fire
  | structural
  deriving DecidableEq, Repr

/-- The string of a discipline. -/
def Discipline.value : Discipline → String
  | architectural => "architectural"
  | electrical => "electrical"
  | mechanical => "mechanical"
  | plumbing => "plumbing"
  | fire => "fire"
  | structural => "structural"

end ZubotIngestion
