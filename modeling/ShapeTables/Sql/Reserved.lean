import ShapeTables.Sql.Dialect

/-! Reserved words, which cannot stand unquoted as names. -/
namespace ShapeTables.Sql

def reservedInPostgresql : List String :=
  ["all", "analyse", "analyze", "and", "any", "array", "as", "asc", "asymmetric", "authorization", "between",
   "binary", "both", "case", "cast", "check", "collate", "column", "constraint", "create", "cross",
   "current_catalog", "current_date", "current_role", "current_schema", "current_time", "current_timestamp",
   "current_user", "default", "deferrable", "desc", "distinct", "do", "else", "end", "except", "false",
   "fetch", "for", "foreign", "freeze", "from", "full", "grant", "group", "having", "ilike", "in",
   "initially", "inner", "intersect", "into", "is", "isnull", "join", "leading", "left", "like", "limit",
   "localtime", "localtimestamp", "natural", "new", "not", "notnull", "null", "of", "off", "offset", "old",
   "on", "only", "or", "order", "outer", "over", "overlaps", "placing", "primary", "references", "returning",
   "right", "select", "session_user", "similar", "some", "symmetric", "table", "then", "to", "trailing",
   "true", "union", "unique", "user", "using", "variadic", "verbose", "when", "where", "window", "with"]

def reservedInMysql : List String :=
  ["accessible", "add", "admin", "all", "alter", "analyze", "and", "array", "as", "asc", "asensitive",
   "before", "between", "bigint", "binary", "blob", "both", "by", "call", "cascade", "case", "change",
   "char", "character", "check", "collate", "column", "condition", "constraint", "continue", "convert",
   "create", "cross", "cube", "cume_dist", "current_date", "current_time", "current_timestamp",
   "current_user", "cursor", "database", "databases", "day_hour", "day_microsecond", "day_minute",
   "day_second", "dec", "decimal", "declare", "default", "delayed", "delete", "dense_rank", "desc",
   "describe", "deterministic", "distinct", "distinctrow", "div", "double", "drop", "dual", "each", "else",
   "elseif", "empty", "enclosed", "escaped", "except", "exists", "exit", "explain", "false", "fetch",
   "first_value", "float", "float4", "float8", "for", "force", "foreign", "from", "fulltext", "function",
   "general", "generated", "get", "get_master_public_key", "grant", "group", "grouping", "groups", "having",
   "high_priority", "hour_microsecond", "hour_minute", "hour_second", "if", "ignore", "ignore_server_ids",
   "in", "index", "infile", "inner", "inout", "insensitive", "insert", "int", "int1", "int2", "int3", "int4",
   "int8", "integer", "intersect", "interval", "into", "io_after_gtids", "io_before_gtids", "is", "iterate",
   "join", "json_table", "key", "keys", "kill", "lag", "last_value", "lateral", "lead", "leading", "leave",
   "left", "like", "limit", "linear", "lines", "load", "localtime", "localtimestamp", "lock", "long",
   "longblob", "longtext", "loop", "low_priority", "master_bind", "master_heartbeat_period",
   "master_ssl_verify_server_cert", "match", "maxvalue", "mediumblob", "mediumint", "mediumtext", "member",
   "middleint", "minute_microsecond", "minute_second", "mod", "modifies", "natural", "no_write_to_binlog",
   "not", "nth_value", "ntile", "null", "numeric", "of", "on", "optimize", "optimizer_costs", "option",
   "optionally", "or", "order", "out", "outer", "outfile", "over", "parallel", "parse_gcol_expr",
   "partition", "percent_rank", "persist", "persist_only", "precision", "primary", "procedure", "purge",
   "qualify", "range", "rank", "read", "read_write", "reads", "real", "recursive", "references", "regexp",
   "release", "rename", "repeat", "replace", "require", "resignal", "restrict", "return", "revoke", "right",
   "rlike", "role", "row", "row_number", "rows", "schema", "schemas", "second_microsecond", "select",
   "sensitive", "separator", "set", "show", "signal", "slow", "smallint", "spatial", "specific", "sql",
   "sql_after_gtids", "sql_before_gtids", "sql_big_result", "sql_calc_found_rows", "sql_small_result",
   "sqlexception", "sqlstate", "sqlwarning", "ssl", "starting", "stored", "straight_join", "system", "table",
   "terminated", "then", "tinyblob", "tinyint", "tinytext", "to", "trailing", "trigger", "true", "undo",
   "union", "unique", "unlock", "unsigned", "update", "usage", "use", "using", "utc_date", "utc_time",
   "utc_timestamp", "values", "varbinary", "varchar", "varcharacter", "varying", "virtual", "when", "where",
   "while", "window", "with", "write", "xor", "year_month", "zerofill"]

def Dialect.reserved : Dialect → List String
  | .postgresql => reservedInPostgresql
  | .mysql => reservedInMysql

end ShapeTables.Sql
