/-!
# The schema of plans

The messages of a Substrait plan that are read, as data: their fields with numbers, names and
types. A oneof is a group of members of which at most one is set. The contents of a message that
is never looked into are skipped, so it is declared without fields and only its presence counts.
Entries are in the order of their numbers.
-/

namespace PlanImport.Schema

inductive MessageType
  | unread
  | plan
  | version
  | planRel
  | relRoot
  | extensionUri
  | extensionDeclaration
  | extensionFunction
  | rel
  | readRel
  | namedTable
  | virtualTable
  | localFiles
  | fileOrFiles
  | icebergTable
  | metadataFileRead
  | filterRel
  | fetchRel
  | aggregateRel
  | grouping
  | measure
  | aggregateFunction
  | sortRel
  | sortField
  | joinRel
  | crossRel
  | projectRel
  | setRel
  | writeRel
  | namedObjectWrite
  | expression
  | literal
  | intervalYearToMonth
  | intervalDayToSecond
  | decimal
  | literalStruct
  | literalList
  | fieldReference
  | referenceSegment
  | structField
  | maskExpression
  | structSelect
  | structItem
  | scalarFunction
  | ifThen
  | ifClause
  | cast
  | singularOrList
  | nested
  | nestedStruct
  | nestedList
  | nestedMap
  | keyValue
  | functionArgument
  | dataType
  | decimalType
  deriving DecidableEq, Repr, Inhabited

inductive EnumType
  | aggregationInvocation
  | sortDirection
  | joinType
  | setOp
  | writeOp
  deriving DecidableEq, Repr

/-- The type of a field or member that is no message. -/
inductive ScalarType
  | bool
  | int32
  | int64
  | uint32
  | float
  | double
  | string
  | bytes
  | enumeration (type : EnumType)
  deriving DecidableEq, Repr

inductive FieldType
  | scalar (type : ScalarType)
  /-- A message that may be absent. -/
  | message (type : MessageType)
  /-- Any number of messages. -/
  | messages (type : MessageType)
  /-- Any number of strings. -/
  | strings
  deriving DecidableEq, Repr

inductive MemberType
  | scalar (type : ScalarType)
  | message (type : MessageType)
  deriving DecidableEq, Repr

structure Field where
  /-- The number in the binary format. -/
  number : Nat
  /-- The name, its words joined by underscores. -/
  name : String
  type : FieldType
  deriving DecidableEq, Repr

structure Member where
  /-- The number in the binary format. -/
  number : Nat
  /-- The name, its words joined by underscores. -/
  name : String
  type : MemberType
  deriving DecidableEq, Repr

/-- A part of a message. -/
inductive Entry
  | field (f : Field)
  | oneof (members : List Member)
  deriving DecidableEq, Repr

/-- The name of a field in JSON: the words after the first start with a capital letter and the
underscores are left out. -/
def jsonName (name : String) : String :=
  .ofList (go name.toList)
where
  /-- The characters after a letter that is kept as it is. -/
  go : List Char → List Char
    | '_' :: c :: rest => c.toUpper :: go rest
    | c :: rest => c :: go rest
    | [] => []

/-- The values of an enumeration by their names. A value may have several names. -/
def EnumType.values : EnumType → List (String × Int32)
  | aggregationInvocation => [("AGGREGATION_INVOCATION_UNSPECIFIED", 0),
      ("AGGREGATION_INVOCATION_ALL", 1), ("AGGREGATION_INVOCATION_DISTINCT", 2)]
  | sortDirection => [("SORT_DIRECTION_UNSPECIFIED", 0), ("SORT_DIRECTION_ASC_NULLS_FIRST", 1),
      ("SORT_DIRECTION_ASC_NULLS_LAST", 2), ("SORT_DIRECTION_DESC_NULLS_FIRST", 3),
      ("SORT_DIRECTION_DESC_NULLS_LAST", 4), ("SORT_DIRECTION_CLUSTERED", 5)]
  | joinType => [("JOIN_TYPE_UNSPECIFIED", 0), ("JOIN_TYPE_INNER", 1), ("JOIN_TYPE_OUTER", 2),
      ("JOIN_TYPE_LEFT", 3), ("JOIN_TYPE_RIGHT", 4), ("JOIN_TYPE_LEFT_SEMI", 5),
      ("JOIN_TYPE_SEMI", 5), ("JOIN_TYPE_LEFT_ANTI", 6), ("JOIN_TYPE_ANTI", 6),
      ("JOIN_TYPE_LEFT_SINGLE", 7), ("JOIN_TYPE_SINGLE", 7), ("JOIN_TYPE_RIGHT_SEMI", 8),
      ("JOIN_TYPE_RIGHT_ANTI", 9), ("JOIN_TYPE_RIGHT_SINGLE", 10), ("JOIN_TYPE_LEFT_MARK", 11),
      ("JOIN_TYPE_RIGHT_MARK", 12)]
  | setOp => [("SET_OP_UNSPECIFIED", 0), ("SET_OP_MINUS_PRIMARY", 1),
      ("SET_OP_MINUS_MULTISET", 2), ("SET_OP_INTERSECTION_PRIMARY", 3),
      ("SET_OP_INTERSECTION_MULTISET", 4), ("SET_OP_UNION_DISTINCT", 5), ("SET_OP_UNION_ALL", 6)]
  | writeOp => [("WRITE_OP_UNSPECIFIED", 0), ("WRITE_OP_INSERT", 1), ("WRITE_OP_DELETE", 2),
      ("WRITE_OP_UPDATE", 3), ("WRITE_OP_CTAS", 4)]

namespace MessageType

/-- The name of a message, as error messages show it. -/
def name : MessageType → String
  | unread => "Opaque"
  | plan => "Plan"
  | version => "Version"
  | planRel => "PlanRel"
  | relRoot => "RelRoot"
  | extensionUri => "SimpleExtensionUri"
  | extensionDeclaration => "SimpleExtensionDeclaration"
  | extensionFunction => "ExtensionFunction"
  | rel => "Rel"
  | readRel => "ReadRel"
  | namedTable => "NamedTable"
  | virtualTable => "VirtualTable"
  | localFiles => "LocalFiles"
  | fileOrFiles => "FileOrFiles"
  | icebergTable => "IcebergTable"
  | metadataFileRead => "MetadataFileRead"
  | filterRel => "FilterRel"
  | fetchRel => "FetchRel"
  | aggregateRel => "AggregateRel"
  | grouping => "Grouping"
  | measure => "Measure"
  | aggregateFunction => "AggregateFunction"
  | sortRel => "SortRel"
  | sortField => "SortField"
  | joinRel => "JoinRel"
  | crossRel => "CrossRel"
  | projectRel => "ProjectRel"
  | setRel => "SetRel"
  | writeRel => "WriteRel"
  | namedObjectWrite => "NamedObjectWrite"
  | expression => "Expression"
  | literal => "Literal"
  | intervalYearToMonth => "IntervalYearToMonth"
  | intervalDayToSecond => "IntervalDayToSecond"
  | decimal => "Decimal"
  | literalStruct => "Struct"
  | literalList => "List"
  | fieldReference => "FieldReference"
  | referenceSegment => "ReferenceSegment"
  | structField => "StructField"
  | maskExpression => "MaskExpression"
  | structSelect => "StructSelect"
  | structItem => "StructItem"
  | scalarFunction => "ScalarFunction"
  | ifThen => "IfThen"
  | ifClause => "IfClause"
  | cast => "Cast"
  | singularOrList => "SingularOrList"
  | nested => "Nested"
  | nestedStruct => "Struct"
  | nestedList => "List"
  | nestedMap => "Map"
  | keyValue => "KeyValue"
  | functionArgument => "FunctionArgument"
  | dataType => "Type"
  | decimalType => "Decimal"

/-- The parts of a message. -/
def entries : MessageType → List Entry
  | unread => []
  | plan => [
      .field ⟨1, "extension_uris", .messages .extensionUri⟩,
      .field ⟨2, "extensions", .messages .extensionDeclaration⟩,
      .field ⟨3, "relations", .messages .planRel⟩, .field ⟨6, "version", .message .version⟩]
  | version => [
      .field ⟨1, "major_number", .scalar .uint32⟩, .field ⟨2, "minor_number", .scalar .uint32⟩,
      .field ⟨3, "patch_number", .scalar .uint32⟩, .field ⟨4, "git_hash", .scalar .string⟩,
      .field ⟨5, "producer", .scalar .string⟩]
  | planRel => [.oneof [
      ⟨1, "rel", .message .rel⟩, ⟨2, "root", .message .relRoot⟩]]
  | relRoot => [.field ⟨1, "input", .message .rel⟩, .field ⟨2, "names", .strings⟩]
  | extensionUri => [
      .field ⟨1, "extension_uri_anchor", .scalar .uint32⟩, .field ⟨2, "uri", .scalar .string⟩]
  | extensionDeclaration => [.oneof [
      ⟨1, "extension_type", .message .unread⟩, ⟨2, "extension_type_variation", .message .unread⟩,
      ⟨3, "extension_function", .message .extensionFunction⟩]]
  | extensionFunction => [
      .field ⟨1, "extension_uri_reference", .scalar .uint32⟩,
      .field ⟨2, "function_anchor", .scalar .uint32⟩, .field ⟨3, "name", .scalar .string⟩]
  | rel => [.oneof [
      ⟨1, "read", .message .readRel⟩, ⟨2, "filter", .message .filterRel⟩,
      ⟨3, "fetch", .message .fetchRel⟩, ⟨4, "aggregate", .message .aggregateRel⟩,
      ⟨5, "sort", .message .sortRel⟩, ⟨6, "join", .message .joinRel⟩,
      ⟨7, "project", .message .projectRel⟩, ⟨8, "set", .message .setRel⟩,
      ⟨9, "extension_single", .message .unread⟩, ⟨10, "extension_multi", .message .unread⟩,
      ⟨11, "extension_leaf", .message .unread⟩, ⟨12, "cross", .message .crossRel⟩,
      ⟨13, "hash_join", .message .unread⟩, ⟨14, "merge_join", .message .unread⟩,
      ⟨15, "exchange", .message .unread⟩, ⟨16, "expand", .message .unread⟩,
      ⟨17, "window", .message .unread⟩, ⟨18, "nested_loop_join", .message .unread⟩,
      ⟨19, "write", .message .writeRel⟩, ⟨20, "ddl", .message .unread⟩,
      ⟨21, "reference", .message .unread⟩]]
  | readRel => [
      .field ⟨3, "filter", .message .expression⟩,
      .field ⟨4, "projection", .message .maskExpression⟩,
      .oneof [
        ⟨5, "virtual_table", .message .virtualTable⟩, ⟨6, "local_files", .message .localFiles⟩,
        ⟨7, "named_table", .message .namedTable⟩, ⟨8, "extension_table", .message .unread⟩,
        ⟨9, "iceberg_table", .message .icebergTable⟩]]
  | namedTable => [.field ⟨1, "names", .strings⟩]
  | virtualTable => [
      .field ⟨1, "values", .messages .literalStruct⟩,
      .field ⟨2, "expressions", .messages .nestedStruct⟩]
  | localFiles => [.field ⟨1, "items", .messages .fileOrFiles⟩]
  | fileOrFiles => [
      .oneof [
        ⟨1, "uri_path", .scalar .string⟩, ⟨2, "uri_path_glob", .scalar .string⟩,
        ⟨3, "uri_file", .scalar .string⟩, ⟨4, "uri_folder", .scalar .string⟩],
      .oneof [
        ⟨9, "parquet", .message .unread⟩, ⟨10, "arrow", .message .unread⟩,
        ⟨11, "orc", .message .unread⟩, ⟨12, "extension", .message .unread⟩,
        ⟨13, "dwrf", .message .unread⟩, ⟨14, "text", .message .unread⟩]]
  | icebergTable => [.oneof [
      ⟨1, "direct", .message .metadataFileRead⟩]]
  | metadataFileRead => [
      .field ⟨1, "metadata_uri", .scalar .string⟩,
      .oneof [⟨2, "snapshot_id", .scalar .string⟩, ⟨3, "snapshot_timestamp", .scalar .int64⟩]]
  | filterRel => [
      .field ⟨2, "input", .message .rel⟩, .field ⟨3, "condition", .message .expression⟩]
  | fetchRel => [
      .field ⟨2, "input", .message .rel⟩, .field ⟨3, "offset", .scalar .int64⟩,
      .field ⟨4, "count", .scalar .int64⟩]
  | aggregateRel => [
      .field ⟨2, "input", .message .rel⟩, .field ⟨3, "groupings", .messages .grouping⟩,
      .field ⟨4, "measures", .messages .measure⟩]
  | grouping => [.field ⟨1, "grouping_expressions", .messages .expression⟩]
  | measure => [.field ⟨1, "measure", .message .aggregateFunction⟩]
  | aggregateFunction => [
      .field ⟨1, "function_reference", .scalar .uint32⟩,
      .field ⟨6, "invocation", .scalar (.enumeration .aggregationInvocation)⟩,
      .field ⟨7, "arguments", .messages .functionArgument⟩]
  | sortRel => [.field ⟨2, "input", .message .rel⟩, .field ⟨3, "sorts", .messages .sortField⟩]
  | sortField => [
      .field ⟨1, "expr", .message .expression⟩,
      .oneof [
        ⟨2, "direction", .scalar (.enumeration .sortDirection)⟩,
        ⟨3, "comparison_function_reference", .scalar .uint32⟩]]
  | joinRel => [
      .field ⟨2, "left", .message .rel⟩, .field ⟨3, "right", .message .rel⟩,
      .field ⟨4, "expression", .message .expression⟩,
      .field ⟨6, "type", .scalar (.enumeration .joinType)⟩]
  | crossRel => [.field ⟨2, "left", .message .rel⟩, .field ⟨3, "right", .message .rel⟩]
  | projectRel => [
      .field ⟨2, "input", .message .rel⟩, .field ⟨3, "expressions", .messages .expression⟩]
  | setRel => [
      .field ⟨2, "inputs", .messages .rel⟩, .field ⟨3, "op", .scalar (.enumeration .setOp)⟩]
  | writeRel => [
      .oneof [
        ⟨1, "named_table", .message .namedObjectWrite⟩, ⟨2, "extension_table", .message .unread⟩],
      .field ⟨4, "op", .scalar (.enumeration .writeOp)⟩,
      .field ⟨5, "input", .message .rel⟩]
  | namedObjectWrite => [.field ⟨1, "names", .strings⟩]
  | expression => [.oneof [
      ⟨1, "literal", .message .literal⟩, ⟨2, "selection", .message .fieldReference⟩,
      ⟨3, "scalar_function", .message .scalarFunction⟩, ⟨5, "window_function", .message .unread⟩,
      ⟨6, "if_then", .message .ifThen⟩, ⟨7, "switch_expression", .message .unread⟩,
      ⟨8, "singular_or_list", .message .singularOrList⟩, ⟨9, "multi_or_list", .message .unread⟩,
      ⟨10, "enum", .message .unread⟩, ⟨11, "cast", .message .cast⟩,
      ⟨12, "subquery", .message .unread⟩, ⟨13, "nested", .message .nested⟩,
      ⟨14, "dynamic_parameter", .message .unread⟩]]
  | literal => [
      .oneof [
        ⟨1, "boolean", .scalar .bool⟩, ⟨2, "i8", .scalar .int32⟩, ⟨3, "i16", .scalar .int32⟩,
        ⟨5, "i32", .scalar .int32⟩, ⟨7, "i64", .scalar .int64⟩, ⟨10, "fp32", .scalar .float⟩,
        ⟨11, "fp64", .scalar .double⟩, ⟨12, "string", .scalar .string⟩,
        ⟨13, "binary", .scalar .bytes⟩, ⟨14, "timestamp", .scalar .int64⟩,
        ⟨16, "date", .scalar .int32⟩, ⟨17, "time", .scalar .int64⟩,
        ⟨19, "interval_year_to_month", .message .intervalYearToMonth⟩,
        ⟨20, "interval_day_to_second", .message .intervalDayToSecond⟩,
        ⟨21, "fixed_char", .scalar .string⟩, ⟨22, "var_char", .message .unread⟩,
        ⟨23, "fixed_binary", .scalar .bytes⟩, ⟨24, "decimal", .message .decimal⟩,
        ⟨25, "struct", .message .literalStruct⟩, ⟨26, "map", .message .unread⟩,
        ⟨27, "timestamp_tz", .scalar .int64⟩, ⟨28, "uuid", .scalar .bytes⟩,
        ⟨29, "null", .message .dataType⟩, ⟨30, "list", .message .literalList⟩],
      .field ⟨50, "nullable", .scalar .bool⟩]
  | intervalYearToMonth => [
      .field ⟨1, "years", .scalar .int32⟩, .field ⟨2, "months", .scalar .int32⟩]
  | intervalDayToSecond => [
      .field ⟨1, "days", .scalar .int32⟩,
      .field ⟨2, "seconds", .scalar .int32⟩,
      .field ⟨3, "microseconds", .scalar .int64⟩,
      .oneof [⟨4, "precision", .scalar .int32⟩],
      .field ⟨5, "subseconds", .scalar .int64⟩]
  | decimal => [
      .field ⟨1, "value", .scalar .bytes⟩, .field ⟨2, "precision", .scalar .int32⟩,
      .field ⟨3, "scale", .scalar .int32⟩]
  | literalStruct => [.field ⟨1, "fields", .messages .literal⟩]
  | literalList => [.field ⟨1, "values", .messages .literal⟩]
  | fieldReference => [.oneof [
      ⟨1, "direct_reference", .message .referenceSegment⟩,
      ⟨2, "masked_reference", .message .maskExpression⟩]]
  | referenceSegment => [.oneof [
      ⟨1, "map_key", .message .unread⟩, ⟨2, "struct_field", .message .structField⟩,
      ⟨3, "list_element", .message .unread⟩]]
  | structField => [
      .field ⟨1, "field", .scalar .int32⟩, .field ⟨2, "child", .message .referenceSegment⟩]
  | maskExpression => [
      .field ⟨1, "select", .message .structSelect⟩,
      .field ⟨2, "maintain_singular_struct", .scalar .bool⟩]
  | structSelect => [.field ⟨1, "struct_items", .messages .structItem⟩]
  | structItem => [.field ⟨1, "field", .scalar .int32⟩]
  | scalarFunction => [
      .field ⟨1, "function_reference", .scalar .uint32⟩,
      .field ⟨4, "arguments", .messages .functionArgument⟩]
  | ifThen => [.field ⟨1, "ifs", .messages .ifClause⟩, .field ⟨2, "else", .message .expression⟩]
  | ifClause => [.field ⟨1, "if", .message .expression⟩, .field ⟨2, "then", .message .expression⟩]
  | cast => [.field ⟨1, "type", .message .dataType⟩, .field ⟨2, "input", .message .expression⟩]
  | singularOrList => [
      .field ⟨1, "value", .message .expression⟩, .field ⟨2, "options", .messages .expression⟩]
  | nested => [.oneof [
      ⟨3, "struct", .message .nestedStruct⟩, ⟨4, "list", .message .nestedList⟩,
      ⟨5, "map", .message .nestedMap⟩]]
  | nestedStruct => [.field ⟨1, "fields", .messages .expression⟩]
  | nestedList => [.field ⟨1, "values", .messages .expression⟩]
  | nestedMap => [.field ⟨1, "key_values", .messages .keyValue⟩]
  | keyValue => [
      .field ⟨1, "key", .message .expression⟩, .field ⟨2, "value", .message .expression⟩]
  | functionArgument => [.oneof [
      ⟨1, "enum", .scalar .string⟩, ⟨2, "type", .message .dataType⟩,
      ⟨3, "value", .message .expression⟩]]
  | dataType => [.oneof [
      ⟨1, "bool", .message .unread⟩, ⟨2, "i8", .message .unread⟩, ⟨3, "i16", .message .unread⟩,
      ⟨5, "i32", .message .unread⟩, ⟨7, "i64", .message .unread⟩, ⟨10, "fp32", .message .unread⟩,
      ⟨11, "fp64", .message .unread⟩, ⟨12, "string", .message .unread⟩,
      ⟨13, "binary", .message .unread⟩, ⟨14, "timestamp", .message .unread⟩,
      ⟨16, "date", .message .unread⟩, ⟨17, "time", .message .unread⟩,
      ⟨19, "interval_year", .message .unread⟩, ⟨20, "interval_day", .message .unread⟩,
      ⟨21, "fixed_char", .message .unread⟩, ⟨22, "varchar", .message .unread⟩,
      ⟨23, "fixed_binary", .message .unread⟩, ⟨24, "decimal", .message .decimalType⟩,
      ⟨25, "struct", .message .unread⟩, ⟨27, "list", .message .unread⟩,
      ⟨28, "map", .message .unread⟩, ⟨29, "timestamp_tz", .message .unread⟩,
      ⟨30, "user_defined", .message .unread⟩, ⟨32, "uuid", .message .unread⟩]]
  | decimalType => [.field ⟨1, "scale", .scalar .int32⟩, .field ⟨2, "precision", .scalar .int32⟩]

end MessageType

def Entry.isOneof : Entry → Bool
  | field _ => false
  | oneof _ => true

def MessageType.hasOneof (t : MessageType) : Bool := t.entries.any Entry.isOneof

end PlanImport.Schema
