import ArenaData.Application
import ArenaData.Archive.Basic
import ArenaData.Archive.Container
import ArenaData.AssetTable.Basic
import ArenaData.AssetTable.Loader
import ArenaData.AssetTable.Phase
import ArenaData.AssetTable.Shared
import ArenaData.Bytes.Basic
import ArenaData.Bytes.Cursor
import ArenaData.Capacity
import ArenaData.CharacterClass.Definition
import ArenaData.CharacterClass.Flags
import ArenaData.CharacterClass.Generation
import ArenaData.CharacterClass.SideData
import ArenaData.Decimal.Binary64
import ArenaData.Decimal.Estimate
import ArenaData.Decimal.Number
import ArenaData.Decimal.Shortest
import ArenaData.Dialogue
import ArenaData.Dungeon
import ArenaData.Fault
import ArenaData.Files.Path
import ArenaData.Files.Tree
import ArenaData.Json.Line
import ArenaData.Json.Numeral
import ArenaData.Json.Reader
import ArenaData.Json.Shown
import ArenaData.Json.Token
import ArenaData.Json.Value
import ArenaData.Json.Writer
import ArenaData.Keyed
import ArenaData.Log.Calendar
import ArenaData.Log.Format
import ArenaData.Log.Journal
import ArenaData.Log.Layout
import ArenaData.Log.Level
import ArenaData.Log.Notice
import ArenaData.Log.Pattern
import ArenaData.Log.Record
import ArenaData.Log.Setup
import ArenaData.Log.Time
import ArenaData.NameChunk
import ArenaData.Naming.Generator
import ArenaData.Naming.Random
import ArenaData.Naming.Rule
import ArenaData.Proofs.Bytes
import ArenaData.Proofs.NameChunkFormat
import ArenaData.Proofs.Outcome
import ArenaData.Question
import ArenaData.Settings.Basic
import ArenaData.Settings.Load
import ArenaData.Settings.Progress
import ArenaData.Settings.Store
import ArenaData.Settings.Validation
import ArenaData.Spell
import ArenaData.SpellMaker
import ArenaData.Template
import ArenaData.Text.Basic
import ArenaData.Text.Blank
import ArenaData.Text.Digit
import ArenaData.Text.Lines
import ArenaData.Text.Printable
import ArenaData.Text.Quoted
import ArenaData.Text.Upper
import ArenaData.Text.Word
import ArenaData.Triple
import ArenaData.WorldMap.Mask
import ArenaData.WorldMap.Rect
import ArenaData.WorldMap.Terrain
import ArenaData.Proofs.NameChunkRoundTrip
import ArenaData.Proofs.ContainerLayout
import ArenaData.Proofs.ArchiveTree
import ArenaData.Proofs.AlikeLoads
import ArenaData.Proofs.Decoders
import ArenaData.Proofs.DecodedTable
import ArenaData.Proofs.LoaderLifecycle
import ArenaData.Proofs.ContainerPacking
import ArenaData.Proofs.PackedLoading
import ArenaData.Proofs.LoadingFaults
import ArenaData.Proofs.NameDraws
import ArenaData.Proofs.NameLanguage
import ArenaData.Proofs.RandomPeriod
import ArenaData.Proofs.DecodedShapes
import ArenaData.Proofs.Lines
import ArenaData.Proofs.Trimming
import ArenaData.Proofs.TemplateSections
import ArenaData.Proofs.TemplateTable
import ArenaData.Proofs.TemplateRoundTrip
import ArenaData.Proofs.TableInvariants
import ArenaData.Proofs.QuestionSegments
import ArenaData.Proofs.QuestionParts
import ArenaData.Proofs.QuestionRoundTrip
import ArenaData.Proofs.PairedReturns
import ArenaData.Proofs.LineEnds
import ArenaData.Proofs.NameSafety
import ArenaData.Proofs.LeadingIndex
import ArenaData.Proofs.SpellBlocks
import ArenaData.Proofs.FolderFiles
import ArenaData.Proofs.LayeredReads
import ArenaData.Proofs.JsonRoundTrip
import ArenaData.Proofs.SideDataRoundTrip
import ArenaData.Proofs.SoundTrees
import ArenaData.Proofs.DirectoryEntries
import ArenaData.Proofs.FolderContract
import ArenaData.Proofs.ArchiveWarning
import ArenaData.Proofs.DocumentIntegers
import ArenaData.Proofs.ValidatedLoading
import ArenaData.Proofs.CursorRuns
import ArenaData.Proofs.TerrainSearch
import ArenaData.Proofs.MaskPixels
import ArenaData.Proofs.TemplateLookup
import ArenaData.Proofs.MaskTiles
import ArenaData.Proofs.FixedLayouts
import ArenaData.Proofs.DialoguePositions
import ArenaData.Proofs.ShownValues
import ArenaData.Proofs.TableColumns
import ArenaData.Proofs.ClassJoin
import ArenaData.Proofs.DungeonBlocks
import ArenaData.Proofs.DungeonRoundTrip
import ArenaData.Proofs.LogRows
import ArenaData.Proofs.ConsoleColors
import ArenaData.Proofs.NewlinePasses
import ArenaData.Proofs.PathTexts
import ArenaData.Proofs.SettingsRuns
import ArenaData.Proofs.MovedFiles
import ArenaData.Proofs.LogFile
import ArenaData.Proofs.LoggingRuns
