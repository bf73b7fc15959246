import CourseCatalog.Catalog.Contents
import CourseCatalog.Catalog.Describe
import CourseCatalog.Catalog.Graph
import CourseCatalog.Catalog.Link
import CourseCatalog.Catalog.Scan
import CourseCatalog.Host.FileTree
import CourseCatalog.Main
import CourseCatalog.Wording.Phrase
import CourseCatalog.Wording.Rendering
import CourseCatalog.Proofs.Layout
import CourseCatalog.Proofs.Building
import CourseCatalog.Proofs.ReadingBack
import CourseCatalog.Proofs.Links
import CourseCatalog.Proofs.Scanning
import CourseCatalog.Proofs.Search
import CourseCatalog.Proofs.Walks
import CourseCatalog.Proofs.BreadthFirst
import CourseCatalog.Proofs.Levels
import CourseCatalog.Proofs.ClosedCodes
import CourseCatalog.Proofs.StrictAnswers
import CourseCatalog.Proofs.Rearrangement
import CourseCatalog.Proofs.Derivation
import CourseCatalog.Proofs.Lexemes
import CourseCatalog.Proofs.Lowering
import CourseCatalog.Proofs.Truth
import CourseCatalog.Proofs.CourseCodes
import CourseCatalog.Proofs.Hyphens
import CourseCatalog.Proofs.Spelling
import CourseCatalog.Proofs.Canonical
import CourseCatalog.Proofs.Json.Scalars
import CourseCatalog.Proofs.Json.Layouts
import CourseCatalog.Proofs.Json.Values
import CourseCatalog.Proofs.Json.Depth
import CourseCatalog.Proofs.Json.Requirements
import CourseCatalog.Proofs.Failures
import CourseCatalog.Proofs.Paths
import CourseCatalog.Proofs.Dataset.Entries
import CourseCatalog.Proofs.Dataset.Omissions
import CourseCatalog.Proofs.Dataset.Respellings
import CourseCatalog.Proofs.Cutting
import CourseCatalog.Proofs.Requiring
import CourseCatalog.Proofs.Juxtaposition
import CourseCatalog.Proofs.TextOrder
import CourseCatalog.Proofs.Warnings
import CourseCatalog.Proofs.Positions
import CourseCatalog.Proofs.Appending
import CourseCatalog.Proofs.Listings
import CourseCatalog.Proofs.LoneCodes
import CourseCatalog.Proofs.Drawings
import CourseCatalog.Proofs.Toml.Strings
import CourseCatalog.Proofs.Toml.Lines
import CourseCatalog.Proofs.Settings.Shown
import CourseCatalog.Proofs.Settings.Layers
