import SchemaBeans.Main
import SchemaBeans.Proofs.Model
import SchemaBeans.Proofs.Resolution.Meaning
import SchemaBeans.Proofs.Extraction.Operations
import SchemaBeans.Proofs.Extraction.Dimensions
import SchemaBeans.Proofs.Resolution.Greatest
import SchemaBeans.Proofs.Extraction.Places
import SchemaBeans.Proofs.Extraction.Filling
import SchemaBeans.Proofs.Extraction.AllOrNothing
import SchemaBeans.Proofs.Resolution.Targets
import SchemaBeans.Proofs.Generation.Accepted
import SchemaBeans.Proofs.Extraction.Visits
import SchemaBeans.Proofs.Generation.Compositions
import SchemaBeans.Proofs.Resolution.Instances
import SchemaBeans.Proofs.Java.Contents
import SchemaBeans.Proofs.Generation.Closed
import SchemaBeans.Proofs.Generation.Members
import SchemaBeans.Proofs.Extraction.Lookups
import SchemaBeans.Proofs.Generation.Untouched
import SchemaBeans.Proofs.Generation.Preparation
import SchemaBeans.Proofs.Generation.Directory
import SchemaBeans.Proofs.Extraction.Warnings
import SchemaBeans.Proofs.Extraction.Siblings
import SchemaBeans.Proofs.Yaml.Keys
import SchemaBeans.Proofs.Yaml.Rearrangement
import SchemaBeans.Proofs.Extraction.Views
import SchemaBeans.Proofs.Extraction.Rearrangement
import SchemaBeans.Proofs.Extraction.Names
import SchemaBeans.Proofs.Files.Writes
import SchemaBeans.Proofs.Files.Trees
import SchemaBeans.Proofs.Files.Ways
import SchemaBeans.Proofs.Files.Contents
import SchemaBeans.Proofs.Generation.Rearrangement
import SchemaBeans.Proofs.Generation.Events
import SchemaBeans.Proofs.Generation.Sources
import SchemaBeans.Proofs.Generation.Stored
import SchemaBeans.Proofs.Generation.Again
import SchemaBeans.Proofs.Generation.Kept
import SchemaBeans.Proofs.Generation.Reported
import SchemaBeans.Proofs.Coherence
import SchemaBeans.Proofs.Resolution.Exact
import SchemaBeans.Proofs.Extraction.Required
import SchemaBeans.Proofs.Descriptions
import SchemaBeans.Proofs.Extraction.Descriptions
import SchemaBeans.Proofs.Resolution.Descriptions
import SchemaBeans.Proofs.Java.Descriptions
import SchemaBeans.Proofs.Generation.Descriptions
import SchemaBeans.Proofs.Reachable
import SchemaBeans.Proofs.Text.CaseMap
import SchemaBeans.Proofs.Java.Classes
import SchemaBeans.Proofs.Java.Parameters
import SchemaBeans.Proofs.Naming.Words
import SchemaBeans.Proofs.Naming.Snake
import SchemaBeans.Proofs.Java.Names
import SchemaBeans.Proofs.Generation.Names
import SchemaBeans.Proofs.Generation.Bounds
import SchemaBeans.Proofs.Java.Warnings
import SchemaBeans.Proofs.Generation.Arrays
import SchemaBeans.Proofs.Text.Letters
import SchemaBeans.Proofs.Naming.Identifiers
import SchemaBeans.Proofs.Generation.Identifiers
import SchemaBeans.Proofs.Java.Lines
import SchemaBeans.Proofs.Java.Constants
import SchemaBeans.Proofs.Generation.Comments
import SchemaBeans.Proofs.Pruning
import SchemaBeans.Proofs.Text.Ascii
import SchemaBeans.Proofs.Naming.Inflection
import SchemaBeans.Proofs.Naming.Ends
import SchemaBeans.Proofs.Generation.Confinement
import SchemaBeans.Proofs.Java.Constructors
import SchemaBeans.Proofs.Path.Segments
