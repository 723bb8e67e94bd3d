import Querywright.Expression.Record

/-! The declared types of what a builder shows of itself. -/
namespace Querywright

def Trace.recordType : RecordType :=
  { name := "Trace"
    fields :=
      [{ name := "query", type := .text }, .row "params",
        { name := "duration", type := .decimal, fallback := some (.decimal 0.0) },
        { name := "stacks", type := .listOf .text, fallback := some (.list []) },
        .optionalText "error"] }

namespace Builder

def recordType : RecordType :=
  { name := "Builder"
    fields :=
      [{ name := "tables", type := .sequence },
        { name := "where_conditions", type := .listOf (.record Condition.recordType.name) },
        { name := "having_conditions", type := .listOf (.record Condition.recordType.name) },
        { name := "joins", type := .mapping },
        { name := "orders", type := .listOf (.record Order.recordType.name) },
        { name := "group_by_columns", type := .listOf .text },
        { name := "limit_value", type := .rowOf .integer },
        { name := "query_options", type := .listOf .text },
        { name := "on_duplicate_columns", type := .listOf .text },
        { name := "last_insert_id_column", type := .optional .text },
        { name := "total_count_requested", type := .truth },
        { name := "page_limit", type := .integer }, { name := "lock_method", type := .text },
        { name := "tracing", type := .truth }, { name := "last_query", type := .text },
        { name := "last_params", type := .row }, { name := "count", type := .integer },
        { name := "last_insert_id", type := .optional .integer },
        { name := "last_insert_ids", type := .listOf .integer },
        { name := "total_count", type := .integer }, { name := "total_page", type := .integer },
        { name := "traces", type := .listOf (.record Trace.recordType.name) }] }

def recordTypes : Schema :=
  [recordType, Condition.recordType, Order.recordType, Trace.recordType]

end Builder
end Querywright
