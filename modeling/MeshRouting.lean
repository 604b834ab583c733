import MeshRouting.Decoding.Acceptance
import MeshRouting.Decoding.Whole
import MeshRouting.Json.Reading.Trees
import MeshRouting.Listener.Config
import MeshRouting.Policy.Document
import MeshRouting.Proofs.Text.Spelling
import MeshRouting.Proofs.Text.Utf8
import MeshRouting.Proofs.Json.Canonical
import MeshRouting.Proofs.Json.Access
import MeshRouting.Proofs.Json.Numerals
import MeshRouting.Proofs.Decoding.Members
import MeshRouting.Proofs.Decoding.Wholeness
import MeshRouting.Proofs.Decoding.ReadingBack
import MeshRouting.Proofs.Decoding.Nesting
import MeshRouting.Proofs.Decoding.Shapes
import MeshRouting.Proofs.Rule.Actions
import MeshRouting.Proofs.Rule.Matches
import MeshRouting.Proofs.Rule.Index
import MeshRouting.Proofs.Rule.Stages
import MeshRouting.Proofs.Rule.Meaning
import MeshRouting.Proofs.Rule.Grammar
import MeshRouting.Proofs.Rule.Interleaving
import MeshRouting.Proofs.Rule.Reading
import MeshRouting.Proofs.Rule.UnknownKeys
import MeshRouting.Proofs.Rule.RoundTrip
import MeshRouting.Proofs.Rule.Writing
import MeshRouting.Proofs.Rule.Provisioning
import MeshRouting.Proofs.Listener.Runs
import MeshRouting.Proofs.Listener.Reachable
import MeshRouting.Proofs.Listener.RoundTrip
import MeshRouting.Proofs.Listener.Provisioning
import MeshRouting.Proofs.Listener.Answers
import MeshRouting.Proofs.Listener.Erasure
import MeshRouting.Proofs.Listener.Growth
import MeshRouting.Proofs.Rule.EvaluationOrder
import MeshRouting.Proofs.Listener.Competition
import MeshRouting.Proofs.Listener.Loading
import MeshRouting.Proofs.Rule.Warnings
import MeshRouting.Proofs.Rule.Targets
import MeshRouting.Proofs.Listener.Log
import MeshRouting.Proofs.Policy.Reading
import MeshRouting.Proofs.Policy.RoundTrip
import MeshRouting.Proofs.Policy.Flattening
import MeshRouting.Proofs.Rule.Building
import MeshRouting.Proofs.Decoding.Complaints
import MeshRouting.Proofs.Decoding.TextOrder
import MeshRouting.Proofs.Decoding.Objections
import MeshRouting.Proofs.Rule.Complaints
import MeshRouting.Proofs.Decoding.Forms
import MeshRouting.Proofs.Listener.Forms
import MeshRouting.Proofs.Listener.Insertion
import MeshRouting.Proofs.Rule.Calls
